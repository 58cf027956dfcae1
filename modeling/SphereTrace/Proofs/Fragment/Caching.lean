import Mathlib.Data.List.Induction
import SphereTrace.Fragment.Cache
import SphereTrace.Proofs.Fragment.Acceptance

/-! # Answers of the cache

A cache answers as if it assembled every request anew. It compares digests and not requests, so this
needs that no two different requests of a run have the same digest. What stands under a key is then
the text of the request that was last answered for it, which had no fault, so an answer from the
cache needs no check.
-/

namespace SphereTrace.Fragment

namespace Cache

variable {c : Cache} {key other : String} {r : Request}

theorem lookup?_erase_self (c : Cache) (key : String) : (c.erase key).lookup? key = none := by
  rw [lookup?, erase, List.lookup_eq_none_iff]
  intro entry hentry
  have hne := (List.mem_filter.mp hentry).2
  rw [bne_comm]
  exact hne

theorem lookup?_erase_of_ne (c : Cache) (h : other ≠ key) :
    (c.erase key).lookup? other = c.lookup? other := by
  simp only [erase, lookup?]
  induction c.entries with
  | nil => rfl
  | cons entry rest ih =>
      obtain ⟨found, value⟩ := entry
      by_cases hkey : found = key
      · have hother : (other == key) = false := beq_false_of_ne h
        simp [List.lookup_cons, hkey, hother, ih]
      · simp [List.lookup_cons, hkey, ih]

theorem lookup?_insert_self (c : Cache) (key : String) (entry : CacheEntry) :
    (c.insert key entry).lookup? key = some entry := by
  simp [insert, lookup?]

theorem lookup?_insert_of_ne (c : Cache) (entry : CacheEntry) (h : other ≠ key) :
    (c.insert key entry).lookup? other = c.lookup? other := by
  have hother : (other == key) = false := beq_false_of_ne h
  rw [← lookup?_erase_of_ne c h]
  simp [insert, lookup?, List.lookup_cons, hother]

theorem needsRebuild_eq_false :
    c.needsRebuild key r = false ↔
      ∃ entry, c.lookup? key = some entry ∧ entry.digest = c.digest r.fingerprint := by
  unfold needsRebuild
  cases c.lookup? key <;> simp

/-- The test for a stale text is that of `needsRebuild`, though it is written out again. -/
theorem getOrAssemble_eq (c : Cache) (key : String) (r : Request) :
    c.getOrAssemble key r =
      let refreshed : Except Error Cache :=
        if c.needsRebuild key r then
          match r.tryAssemble with
          | .error e => .error e
          | .ok source => .ok (c.insert key ⟨source, c.digest r.fingerprint⟩)
        else .ok c
      match refreshed with
      | .error e => (c, .error e)
      | .ok refreshed =>
        match refreshed.lookup? key with
        | some entry => (refreshed, .ok ⟨entry.source, c.needsRebuild key r⟩)
        | none => (refreshed, .error (.other "Entry missing after insert")) := rfl

/-- The cache answers with the entry that it has, or assembles the request and keeps the text, or
refuses the request and stays as it is. -/
theorem getOrAssemble_cases (c : Cache) (key : String) (r : Request) :
    (∃ entry, c.lookup? key = some entry ∧ entry.digest = c.digest r.fingerprint ∧
        c.getOrAssemble key r = (c, .ok ⟨entry.source, false⟩)) ∨
      (∃ source, c.needsRebuild key r = true ∧ r.tryAssemble = .ok source ∧
        c.getOrAssemble key r =
          (c.insert key ⟨source, c.digest r.fingerprint⟩, .ok ⟨source, true⟩)) ∨
      ∃ e, c.needsRebuild key r = true ∧ r.tryAssemble = .error e ∧
        c.getOrAssemble key r = (c, .error e) := by
  cases hneeds : c.needsRebuild key r with
  | false =>
      obtain ⟨entry, hentry, hdigest⟩ := needsRebuild_eq_false.mp hneeds
      exact .inl ⟨entry, hentry, hdigest, by simp [getOrAssemble_eq, hneeds, hentry]⟩
  | true =>
      cases hsource : r.tryAssemble with
      | error e => exact .inr (.inr ⟨e, rfl, rfl, by simp [getOrAssemble_eq, hneeds, hsource]⟩)
      | ok source =>
          refine .inr (.inl ⟨source, rfl, rfl, ?_⟩)
          simp [getOrAssemble_eq, hneeds, hsource, lookup?_insert_self]

/-- What can be done to a cache. -/
inductive Operation where
  | getOrAssemble (key : String) (r : Request)
  | needsRebuild (key : String) (r : Request)
  | get (key : String)
  | remove (key : String)
  | clear

namespace Operation

/-- The key that the operation is about. -/
def key? : Operation → Option String
  | getOrAssemble key _ | needsRebuild key _ | get key | remove key => some key
  | clear => none

def request? : Operation → Option Request
  | getOrAssemble _ r | needsRebuild _ r => some r
  | get _ | remove _ | clear => none

end Operation

/-- What an operation makes of the cache, apart from its answer. -/
def step (c : Cache) : Operation → Cache
  | .getOrAssemble key r => (c.getOrAssemble key r).1
  | .remove key => (c.remove key).1
  | .clear => c.clear
  | .needsRebuild _ _ | .get _ => c

def run (c : Cache) (ops : List Operation) : Cache :=
  ops.foldl step c

theorem run_concat (c : Cache) (ops : List Operation) (op : Operation) :
    c.run (ops ++ [op]) = (c.run ops).step op :=
  List.foldl_append

/-- The request that was last answered for a key, given the one before the operation. -/
def used? (c : Cache) (key : String) (last : Option Request) : Operation → Option Request
  | .getOrAssemble target r =>
    if target = key ∧ (c.getOrAssemble target r).2.isOk then some r else last
  | .remove target => if target = key then none else last
  | .clear => none
  | .needsRebuild _ _ | .get _ => last

/-- The request that was last answered for a key in a run, unless the key was removed or the cache
cleared since. -/
def lastUsed? (c : Cache) (key : String) (ops : List Operation) : Option Request :=
  (ops.foldl (fun state op => (state.1.step op, state.1.used? key state.2 op)) (c, none)).2

theorem lastUsed?_concat (c : Cache) (key : String) (ops : List Operation) (op : Operation) :
    c.lastUsed? key (ops ++ [op]) = (c.run ops).used? key (c.lastUsed? key ops) op := by
  have hrun : ∀ last, (ops.foldl (fun state op => (state.1.step op, state.1.used? key state.2 op))
      (c, last)).1 = c.run ops := by
    induction ops generalizing c with
    | nil => exact fun _ => rfl
    | cons first rest ih => exact fun last => ih (c.step first) _
  rw [lastUsed?, List.foldl_append, lastUsed?, ← hrun none]
  rfl

theorem mem_of_lastUsed? {ops : List Operation} (h : c.lastUsed? key ops = some r) :
    r ∈ ops.filterMap Operation.request? := by
  induction ops using List.reverseRecOn with
  | nil => cases h
  | append_singleton ops op ih =>
      rw [lastUsed?_concat] at h
      rw [List.filterMap_append, List.mem_append]
      -- The operation has brought the request in itself, or kept or dropped an older one.
      cases op with
      | getOrAssemble target q =>
          simp only [used?] at h
          split at h
          next => exact .inr (by simp [Operation.request?, Option.some.inj h])
          next => exact .inl (ih h)
      | remove target =>
          simp only [used?] at h
          split at h
          next => cases h
          next => exact .inl (ih h)
      | clear => cases h
      | needsRebuild | get => exact .inl (ih h)

/-- The text of a request stands under a key. -/
def Holds (c : Cache) (key : String) (r : Request) : Prop :=
  c.lookup? key = some ⟨r.assemble, c.digest r.fingerprint⟩

theorem Holds.needsRebuild (h : c.Holds key r) : c.needsRebuild key r = false :=
  needsRebuild_eq_false.mpr ⟨_, h, rfl⟩

theorem Holds.getOrAssemble (h : c.Holds key r) :
    c.getOrAssemble key r = (c, .ok ⟨r.assemble, false⟩) := by
  have hentry : c.lookup? key = some ⟨r.assemble, c.digest r.fingerprint⟩ := h
  simp [getOrAssemble_eq, h.needsRebuild, hentry]

theorem holds_insert (c : Cache) (key : String) (r : Request) :
    (c.insert key ⟨r.assemble, c.digest r.fingerprint⟩).Holds key r :=
  c.lookup?_insert_self key _

/-- A text that had to be assembled is held from then on. -/
theorem holds_getOrAssemble (hneeds : c.needsRebuild key r = true)
    (hvalid : r.validate = .ok ()) : (c.getOrAssemble key r).1.Holds key r := by
  have hsource := Request.tryAssemble_eq_ok.mpr ⟨hvalid, rfl⟩
  simp only [getOrAssemble_eq, hneeds, hsource, if_true, lookup?_insert_self]
  exact c.holds_insert key r

/-- Under a key stands the text of a request without fault, if any. -/
def Keeps (c : Cache) (key : String) : Option Request → Prop
  | none => c.lookup? key = none
  | some r => r.validate = .ok () ∧ c.Holds key r

variable {c' : Cache} {last : Option Request}

theorem Keeps.congr (h : c.Keeps key last) (hentry : c'.lookup? key = c.lookup? key)
    (hdigest : c'.digest = c.digest) : c'.Keeps key last := by
  cases last with
  | none => exact hentry.trans h
  | some r => exact ⟨h.1, by rw [Holds, hentry, hdigest]; exact h.2⟩

/-- Where an entry seems to fit, it fits if digests tell the requests apart. -/
theorem Keeps.eq_some (h : c.Keeps key last)
    (hdistinct : ∀ q ∈ last, c.digest q.fingerprint = c.digest r.fingerprint → q = r)
    (hneeds : c.needsRebuild key r = false) : last = some r := by
  obtain ⟨entry, hentry, hdigest⟩ := needsRebuild_eq_false.mp hneeds
  cases last with
  | none => rw [h] at hentry; cases hentry
  | some q =>
      obtain rfl : entry = _ := Option.some.inj (hentry.symm.trans h.2)
      rw [hdistinct q rfl hdigest]

theorem Keeps.step {op : Operation} (h : c.Keeps key last)
    (hdistinct : ∀ q ∈ last, ∀ r ∈ op.request?,
      c.digest q.fingerprint = c.digest r.fingerprint → q = r) :
    (c.step op).Keeps key (c.used? key last op) := by
  cases op with
  | needsRebuild | get => exact h
  | clear => rfl
  | remove target =>
      simp only [Cache.step, used?, Cache.remove]
      split
      next htarget => rw [htarget]; exact c.lookup?_erase_self key
      next htarget => exact h.congr (c.lookup?_erase_of_ne (Ne.symm htarget)) rfl
  | getOrAssemble target r =>
      simp only [Cache.step, used?]
      rcases c.getOrAssemble_cases target r with ⟨entry, hentry, hdigest, heq⟩ |
        ⟨source, _, hsource, heq⟩ | ⟨e, _, _, heq⟩
      · rw [heq]
        split
        next htarget =>
          obtain ⟨rfl, _⟩ := htarget
          have hneeds := needsRebuild_eq_false.mpr ⟨entry, hentry, hdigest⟩
          rw [← h.eq_some (fun q hq => hdistinct q hq r rfl) hneeds]
          exact h
        next => exact h
      · rw [heq]
        by_cases htarget : target = key
        · subst htarget
          obtain ⟨hvalid, rfl⟩ := Request.tryAssemble_eq_ok.mp hsource
          simp only [true_and]
          exact ⟨hvalid, c.holds_insert target r⟩
        · rw [if_neg fun hand => htarget hand.1]
          exact h.congr (c.lookup?_insert_of_ne _ (Ne.symm htarget)) rfl
      · rw [heq, if_neg fun hand => by cases hand.2]
        exact h

theorem digest_step (c : Cache) (op : Operation) : (c.step op).digest = c.digest := by
  cases op with
  | getOrAssemble key r =>
      rcases c.getOrAssemble_cases key r with ⟨_, _, _, heq⟩ | ⟨_, _, _, heq⟩ | ⟨_, _, _, heq⟩ <;>
        simp [step, heq, insert]
  | _ => rfl

theorem digest_run (c : Cache) (ops : List Operation) : (c.run ops).digest = c.digest := by
  induction ops generalizing c with
  | nil => rfl
  | cons op rest ih => exact (ih (c.step op)).trans (c.digest_step op)

/-- The operation concerns one key only. -/
theorem get?_step (c : Cache) {op : Operation} (hkey : op.key? = some key) (hother : other ≠ key) :
    (c.step op).get? other = c.get? other := by
  have hentry : (c.step op).lookup? other = c.lookup? other := by
    cases op with
    | needsRebuild | get => rfl
    | clear => cases hkey
    | remove target =>
        obtain rfl : target = key := Option.some.inj hkey
        exact c.lookup?_erase_of_ne hother
    | getOrAssemble target r =>
        obtain rfl : target = key := Option.some.inj hkey
        rcases c.getOrAssemble_cases target r with ⟨_, _, _, heq⟩ | ⟨_, _, _, heq⟩ | ⟨_, _, _, heq⟩
        · simp [step, heq]
        · simp [step, heq, c.lookup?_insert_of_ne _ hother]
        · simp [step, heq]
  rw [get?, get?, hentry]

/-- The digests of the requests of a run tell these apart. -/
def Distinguishes (digest : List UInt8 → UInt64) (ops : List Operation) : Prop :=
  ∀ q ∈ ops.filterMap Operation.request?, ∀ r ∈ ops.filterMap Operation.request?,
    digest q.fingerprint = digest r.fingerprint → q = r

instance (digest : List UInt8 → UInt64) (ops : List Operation) :
    Decidable (Distinguishes digest ops) :=
  inferInstanceAs (Decidable (∀ q ∈ ops.filterMap Operation.request?, ∀ r ∈ _, _))

theorem Distinguishes.init {digest : List UInt8 → UInt64} {ops : List Operation} {op : Operation}
    (h : Distinguishes digest (ops ++ [op])) : Distinguishes digest ops := by
  intro q hq r hr
  rw [Distinguishes, List.filterMap_append] at h
  exact h q (List.mem_append_left _ hq) r (List.mem_append_left _ hr)

/-- A request of the next operation with the digest of the one that was last answered is that one. -/
theorem Distinguishes.eq_of_lastUsed? {digest : List UInt8 → UInt64} {ops : List Operation}
    {op : Operation} {q r : Request} (h : Distinguishes digest (ops ++ [op]))
    (hq : c.lastUsed? key ops = some q) (hr : op.request? = some r)
    (hdigest : digest q.fingerprint = digest r.fingerprint) : q = r := by
  rw [Distinguishes, List.filterMap_append] at h
  refine h q (List.mem_append_left _ (mem_of_lastUsed? hq)) r (List.mem_append_right _ ?_) hdigest
  simp [hr]

theorem keeps_run {digest : List UInt8 → UInt64} {ops : List Operation} (key : String)
    (h : Distinguishes digest ops) :
    (run { digest } ops).Keeps key (lastUsed? { digest } key ops) := by
  -- Each operation looks back at the requests before it, so the run is taken apart from its end.
  induction ops using List.reverseRecOn with
  | nil => rfl
  | append_singleton ops op ih =>
      rw [run_concat, lastUsed?_concat]
      refine (ih h.init).step ?_
      intro q hq r hr
      rw [digest_run]
      exact h.eq_of_lastUsed? hq hr

/-- A cache is as good as plain assembly. After any run from an empty cache whose requests have
different digests, a request is answered with its text if it has no fault, and refused with the same
error otherwise, which leaves the cache as it was. The answer is marked as rebuilt if `needsRebuild`
says so, that is, unless the request is the one that was last answered for the key since its removal
or the last clearing. What an operation does to one key does not show under another. -/
theorem getOrAssemble_after (digest : List UInt8 → UInt64) (ops : List Operation) (key : String)
    (r : Request) (hdistinct : Distinguishes digest (ops ++ [.getOrAssemble key r])) :
    let c : Cache := run { digest } ops
    (c.getOrAssemble key r).2 =
        (match r.tryAssemble with
        | .ok source => .ok ⟨source, c.needsRebuild key r⟩
        | .error e => .error e) ∧
      (c.needsRebuild key r = false ↔ lastUsed? { digest } key ops = some r) ∧
      (∀ e, (c.getOrAssemble key r).2 = .error e → (c.getOrAssemble key r).1 = c) ∧
      ∀ (op : Operation) (target : String), op.key? = some target →
        ∀ other, other ≠ target → (c.step op).get? other = c.get? other := by
  intro c
  have hkeeps : c.Keeps key (lastUsed? { digest } key ops) := keeps_run key hdistinct.init
  have hlast : c.needsRebuild key r = false → lastUsed? { digest } key ops = some r := by
    refine hkeeps.eq_some ?_
    intro q hq
    have hdigest : c.digest = digest := digest_run _ _
    rw [hdigest]
    exact hdistinct.eq_of_lastUsed? hq rfl
  refine ⟨?_, ⟨hlast, ?_⟩, ?_, fun op target hkey other hother => c.get?_step hkey hother⟩
  · cases hneeds : c.needsRebuild key r with
    | false =>
        rw [hlast hneeds] at hkeeps
        rw [hkeeps.2.getOrAssemble, Request.tryAssemble_eq_ok.mpr ⟨hkeeps.1, rfl⟩]
    | true =>
        rcases c.getOrAssemble_cases key r with ⟨entry, hentry, hdigest, _⟩ |
          ⟨source, _, hsource, heq⟩ | ⟨e, _, herror, heq⟩
        · rw [needsRebuild_eq_false.mpr ⟨entry, hentry, hdigest⟩] at hneeds
          cases hneeds
        · rw [heq, hsource]
        · rw [heq, herror]
  · intro hused
    rw [hused] at hkeeps
    exact hkeeps.2.needsRebuild
  · intro e he
    rcases c.getOrAssemble_cases key r with ⟨_, _, _, heq⟩ | ⟨_, _, _, heq⟩ | ⟨_, _, _, heq⟩
    · rw [heq]
    · rw [heq] at he
      cases he
    · rw [heq]

/-- A scene in two resolutions under one key: the second request replaces the text of the first. -/
theorem getOrAssemble_sphere :
    let sphere := Request.ofScene "vec2( length( p ) - 1., 0. )"
    let fine := { sphere with steps := 64 }
    let c := run .empty [.getOrAssemble "main" sphere, .getOrAssemble "main" fine]
    (c.getOrAssemble "main" fine).2 = .ok ⟨fine.assemble, false⟩ ∧
      c.needsRebuild "main" sphere = true := by
  intro sphere fine c
  obtain ⟨hanswer, hfine, _⟩ := getOrAssemble_after Digest.ofBytes
    [.getOrAssemble "main" sphere, .getOrAssemble "main" fine] "main" fine (by decide +kernel)
  obtain ⟨_, hsphere, _⟩ := getOrAssemble_after Digest.ofBytes
    [.getOrAssemble "main" sphere, .getOrAssemble "main" fine] "main" sphere (by decide +kernel)
  constructor
  · have hneeds : c.needsRebuild "main" fine = false := hfine.mpr (by decide +kernel)
    have hvalid : fine.tryAssemble = .ok fine.assemble :=
      Request.tryAssemble_eq_ok.mpr ⟨by decide +kernel, rfl⟩
    refine hanswer.trans ?_
    rw [hvalid]
    simp only [Except.ok.injEq, CachedSource.mk.injEq, true_and]
    exact hneeds
  · rw [← Bool.not_eq_false]
    exact fun hneeds => absurd (hsphere.mp hneeds) (by decide +kernel)

end Cache

end SphereTrace.Fragment
