import Mathlib.Data.List.Induction
import Mathlib.Logic.Function.Basic
import SphereTrace.Proofs.Texture.Making
import SphereTrace.Proofs.Texture.Sending
import SphereTrace.Proofs.Uniform.Inputs

/-! # What the past says about a uniform

Name and type of a uniform are fixed. Its value, its flag and its location are what the last
operation that concerns each of them has left, where a set that fails concerns nothing. What every
program has received follows from that, upload by upload.
-/

namespace SphereTrace

open Glsl (DataType Value)

section Last

variable {α β : Type} {f : α → Option β} {history : List α} {initial : β}

/-- What the last event that says something has said, or what was there before any. -/
def lastOf (f : α → Option β) (history : List α) (initial : β) : β :=
  (history.reverse.findSome? f).getD initial

theorem lastOf_concat (f : α → Option β) (history : List α) (event : α) (initial : β) :
    lastOf f (history ++ [event]) initial = (f event).getD (lastOf f history initial) := by
  rw [lastOf, List.reverse_append, List.reverse_singleton, List.singleton_append,
    List.findSome?_cons]
  cases f event <;> rfl

theorem findSome?_reverse_eq_some_iff {said : β} :
    history.reverse.findSome? f = some said ↔
      ∃ before event since, history = before ++ event :: since ∧ f event = some said ∧
        ∀ later ∈ since, f later = none := by
  rw [List.findSome?_eq_some_iff]
  constructor
  · rintro ⟨since, event, before, hsplit, hsaid, hsince⟩
    exact ⟨before.reverse, event, since.reverse, by simpa using congrArg List.reverse hsplit, hsaid,
      by simpa using hsince⟩
  · rintro ⟨before, event, since, rfl, hsaid, hsince⟩
    exact ⟨since.reverse, event, before.reverse, by simp, hsaid, by simpa using hsince⟩

/-- Nothing has been said since, or nothing at all. -/
theorem lastOf_eq_iff {said : β} :
    lastOf f history initial = said ↔
      (∃ before event since, history = before ++ event :: since ∧ f event = some said ∧
        ∀ later ∈ since, f later = none) ∨
      (∀ event ∈ history, f event = none) ∧ initial = said := by
  rw [lastOf, Option.getD_eq_iff, findSome?_reverse_eq_some_iff, List.findSome?_eq_none_iff]
  simp only [List.mem_reverse]

end Last

namespace Uniform

/-- The ways to make a uniform. -/
inductive Created : Uniform → Prop
  | new (name : String) (value : Value) : Created { name, value }
  | ofInput {type : DataType} {name : String} {input : Input} {u : Uniform}
      (h : ofInput type name input = .ok u) : Created u

theorem Created.eq {u : Uniform} (h : u.Created) :
    u = { name := u.name, value := u.value, dirty := true, location := none } := by
  cases h with
  | new => rfl
  | ofInput h =>
      unfold Uniform.ofInput at h
      split at h <;> cases h
      rfl

/-- What can be done to a uniform. It can be bound and uploaded to any programs, which have labels
to tell apart what they receive. -/
inductive Operation (π : Type) where
  | set (input : Input)
  | fill (x : Binary32)
  | markDirty
  | bind (locations : Locations)
  | upload (program : π)

/-- A uniform and what each program has received from it, latest last. -/
structure Link (π : Type) where
  uniform : Uniform
  received : π → List Write

/-- The write that is due to the next program. -/
def due? (u : Uniform) : Option Write :=
  if u.dirty then u.location.map fun location => ⟨location, u.value⟩ else none

theorem upload_eq (u : Uniform) : u.upload = ({ u with dirty := false }, u.due?) := by
  unfold upload due?
  split
  next => rfl
  next hclean =>
    have hflag : u.dirty = false := Bool.not_eq_true _ ▸ hclean
    rw [← hflag]

theorem isSome_due?_iff {u : Uniform} :
    u.due?.isSome ↔ u.dirty = true ∧ ∃ location, u.location = some location := by
  unfold due?
  cases u.dirty <;> cases u.location <;> simp

theorem set_eq_error_iff (u : Uniform) (input : Input) :
    u.set input = .error (.typeMismatch u.name u.dataType input.dataType) ↔
      input.Misfits u.dataType := by
  rw [set, assign?, ← Input.resolve?_eq_none_iff]
  cases input.resolve? u.dataType <;> simp

/-- A number fills any uniform, as a scalar or by itself. -/
theorem set_scalar (u : Uniform) (x : Binary32) : u.set (.scalar x) = .ok (u.fill x) := by
  simp [set, assign?, fill, Input.resolve?]

namespace Operation

variable {π : Type}

/-- The operation is a set to an input that is no value of the type. -/
def Fails (type : DataType) (op : Operation π) : Prop :=
  ∃ input, op = set input ∧ input.Misfits type

/-- The value that the operation gives to a uniform of a type. -/
def value? (type : DataType) : Operation π → Option Value
  | set input => input.resolve? type
  | fill x => some (.broadcast type x)
  | markDirty | bind _ | upload _ => none

/-- The answer of the program to which a uniform of a name is bound. -/
def location? (name : String) : Operation π → Option (Option Location)
  | bind locations => some (locations name)
  | set _ | fill _ | markDirty | upload _ => none

/-- The flag that the operation leaves on a uniform of a type. -/
def flag? (type : DataType) : Operation π → Option Bool
  | set input => (input.resolve? type).map fun _ => true
  | fill _ | markDirty | bind _ => some true
  | upload _ => some false

def program? : Operation π → Option π
  | upload program => some program
  | set _ | fill _ | markDirty | bind _ => none

variable {type : DataType} {op : Operation π}

theorem dataType_of_value? {value : Value} (h : op.value? type = some value) :
    value.dataType = type := by
  cases op with
  | set input => exact Input.dataType_of_resolve? h
  | fill x => obtain rfl := Option.some.inj h; exact Value.dataType_broadcast type x
  | _ => cases h

theorem flag?_eq_none_iff : op.flag? type = none ↔ op.Fails type := by
  cases op <;> simp [flag?, Fails, ← Input.resolve?_eq_none_iff]

theorem flag?_eq_some_false_iff : op.flag? type = some false ↔ ∃ program, op = upload program := by
  cases op <;> simp [flag?]

end Operation

namespace Link

variable {π : Type} [DecidableEq π]

/-- Uploads to a program, and answers whether the program has received a write. -/
def upload (s : Link π) (program : π) : Link π × Bool :=
  let (uniform, log, written) := s.uniform.send (fun log w => log ++ [w]) (s.received program)
  (⟨uniform, Function.update s.received program log⟩, written)

/-- A set that fails changes nothing, and only an upload reaches a program. -/
def step (s : Link π) : Operation π → Link π
  | .set input =>
    match s.uniform.set input with
    | .ok changed => { s with uniform := changed }
    | .error _ => s
  | .fill x => { s with uniform := s.uniform.fill x }
  | .markDirty => { s with uniform := s.uniform.markDirty }
  | .bind locations => { s with uniform := s.uniform.bind locations }
  | .upload program => (s.upload program).1

def run (s : Link π) (ops : List (Operation π)) : Link π :=
  ops.foldl step s

theorem run_concat (s : Link π) (ops : List (Operation π)) (op : Operation π) :
    s.run (ops ++ [op]) = (s.run ops).step op :=
  List.foldl_append

theorem upload_eq (s : Link π) (program : π) :
    s.upload program = (⟨{ s.uniform with dirty := false },
      Function.update s.received program (s.received program ++ s.uniform.due?.toList)⟩,
      s.uniform.due?.isSome) := by
  unfold upload
  rw [Uniform.send_eq, Uniform.upload_eq]
  cases s.uniform.due? <;> simp

/-- What one operation leaves. -/
theorem uniform_step (s : Link π) (op : Operation π) :
    (s.step op).uniform =
      { name := s.uniform.name
        value := (op.value? s.uniform.dataType).getD s.uniform.value
        dirty := (op.flag? s.uniform.dataType).getD s.uniform.dirty
        location := (op.location? s.uniform.name).getD s.uniform.location } := by
  cases op with
  | set input =>
      simp only [step, Uniform.set, assign?, Operation.value?, Operation.flag?,
        Operation.location?]
      cases input.resolve? s.uniform.dataType <;> rfl
  | upload program => rw [step, upload_eq]; rfl
  | _ => rfl

theorem received_step (s : Link π) (op : Operation π) (program : π) :
    (s.step op).received program =
      s.received program ++
        (if op.program? = some program then s.uniform.due? else none).toList := by
  cases op with
  | set input =>
      simp only [step, Operation.program?]
      split <;> simp
  | upload target =>
      rw [step, upload_eq]
      by_cases htarget : program = target
      · simp [Operation.program?, htarget]
      · simp [Operation.program?, htarget, Ne.symm htarget]
  | _ => simp [step, Operation.program?]

theorem dataType_step (s : Link π) (op : Operation π) :
    (s.step op).uniform.dataType = s.uniform.dataType := by
  rw [dataType, uniform_step]
  cases hvalue : op.value? s.uniform.dataType with
  | none => rfl
  | some value => exact Operation.dataType_of_value? hvalue

theorem dataType_run (s : Link π) (ops : List (Operation π)) :
    (s.run ops).uniform.dataType = s.uniform.dataType := by
  induction ops generalizing s with
  | nil => rfl
  | cons op rest ih => exact (ih (s.step op)).trans (s.dataType_step op)

theorem uniform_run (s : Link π) (ops : List (Operation π)) :
    (s.run ops).uniform =
      { name := s.uniform.name
        value := lastOf (Operation.value? s.uniform.dataType) ops s.uniform.value
        dirty := lastOf (Operation.flag? s.uniform.dataType) ops s.uniform.dirty
        location := lastOf (Operation.location? s.uniform.name) ops s.uniform.location } := by
  induction ops using List.reverseRecOn with
  | nil => rfl
  | append_singleton ops op ih =>
      rw [run_concat, uniform_step, dataType_run, ih]
      simp only [lastOf_concat]

theorem name_run (s : Link π) (ops : List (Operation π)) :
    (s.run ops).uniform.name = s.uniform.name := by
  rw [uniform_run]

theorem value_run (s : Link π) (ops : List (Operation π)) :
    (s.run ops).uniform.value =
      lastOf (Operation.value? s.uniform.dataType) ops s.uniform.value := by
  rw [uniform_run]

theorem location_run (s : Link π) (ops : List (Operation π)) :
    (s.run ops).uniform.location =
      lastOf (Operation.location? s.uniform.name) ops s.uniform.location := by
  rw [uniform_run]

theorem received_run (s : Link π) (ops : List (Operation π)) (program : π) :
    (s.run ops).received program =
      s.received program ++ ops.zipIdx.filterMap fun (op, place) =>
        if op.program? = some program then (s.run (ops.take place)).uniform.due? else none := by
  induction ops using List.reverseRecOn with
  | nil => simp [run]
  | append_singleton ops op ih =>
      rw [run_concat, received_step, ih, List.append_assoc, List.zipIdx_append,
        List.filterMap_append]
      congr 2
      · -- The operation stands behind all earlier places.
        apply List.filterMap_congr
        rintro ⟨earlier, place⟩ hentry
        have hlt := (List.mem_zipIdx' hentry).1
        dsimp only
        rw [List.take_append_of_le_length (Nat.le_of_lt hlt)]
      · by_cases hprogram : op.program? = some program
        · cases hdue : (s.run ops).uniform.due? <;> simp [hprogram, hdue]
        · simp [hprogram]

/-- A uniform that was dirty at first is clean if nothing but sets that fail came after an upload. -/
theorem dirty_run_eq_false_iff {s : Link π} (hdirty : s.uniform.dirty = true)
    (ops : List (Operation π)) :
    (s.run ops).uniform.dirty = false ↔ ∃ before program since,
      ops = before ++ .upload program :: since ∧ ∀ op ∈ since, op.Fails s.uniform.dataType := by
  rw [uniform_run]
  simp only [lastOf_eq_iff, hdirty, Bool.true_eq_false, and_false, or_false,
    Operation.flag?_eq_some_false_iff, Operation.flag?_eq_none_iff]
  constructor
  · rintro ⟨before, _, since, hsplit, ⟨program, rfl⟩, hsince⟩
    exact ⟨before, program, since, hsplit, hsince⟩
  · rintro ⟨before, program, since, hsplit, hsince⟩
    exact ⟨before, _, since, hsplit, ⟨program, rfl⟩, hsince⟩

/-- Whatever is done to a uniform after it has been made, its name and its type stay. It has the
location that the last binding gave and the value that the last set to a fitting input or the last
filling gave. It is clean exactly if nothing but sets that fail came after an upload. Each program
has received, in order, the value and the location that the uniform had at those uploads to it that
found it dirty and located, which are the ones that answer so. -/
theorem run_created {u : Uniform} (hu : u.Created) (received : π → List Write)
    (ops : List (Operation π)) :
    let s := run ⟨u, received⟩ ops
    (s.uniform.name = u.name ∧ s.uniform.dataType = u.dataType) ∧
      s.uniform.location = lastOf (Operation.location? u.name) ops none ∧
      s.uniform.value = lastOf (Operation.value? u.dataType) ops u.value ∧
      (s.uniform.dirty = false ↔ ∃ before program since,
        ops = before ++ .upload program :: since ∧ ∀ op ∈ since, op.Fails u.dataType) ∧
      (∀ input, s.uniform.set input = .error (.typeMismatch u.name u.dataType input.dataType) ↔
        input.Misfits u.dataType) ∧
      (∀ x, s.uniform.set (.scalar x) = .ok (s.uniform.fill x)) ∧
      (∀ program, s.received program =
        received program ++ ops.zipIdx.filterMap fun (op, place) =>
          if op.program? = some program then (run ⟨u, received⟩ (ops.take place)).uniform.due?
          else none) ∧
      ∀ program, (s.upload program).2 = true ↔
        s.uniform.dirty = true ∧ ∃ location, s.uniform.location = some location := by
  intro s
  have hname : s.uniform.name = u.name := name_run ⟨u, received⟩ ops
  have htype : s.uniform.dataType = u.dataType := dataType_run ⟨u, received⟩ ops
  have hdirty : u.dirty = true := congrArg Uniform.dirty hu.eq
  have hlocation : u.location = none := congrArg Uniform.location hu.eq
  refine ⟨⟨hname, htype⟩, ?_, value_run ⟨u, received⟩ ops, dirty_run_eq_false_iff hdirty ops, ?_,
    s.uniform.set_scalar, received_run ⟨u, received⟩ ops, ?_⟩
  · rw [← hlocation]
    exact location_run ⟨u, received⟩ ops
  · rw [← hname, ← htype]
    exact s.uniform.set_eq_error_iff
  · intro program
    rw [upload_eq]
    exact isSome_due?_iff

/-- A colour goes to two programs. The first upload finds no location, and a vector of two
components never fits. -/
theorem run_created_tint :
    let u : Uniform := { name := "tint", value := .vec3 (.splat 1) }
    let locations : Locations := fun name => if name = "tint" then some ⟨4⟩ else none
    let misfit : Operation Bool := .set (.vec2 ⟨0, 1⟩)
    let s := run ⟨u, fun _ => []⟩
      [.upload false, .bind locations, misfit, .upload true, .fill 0, .upload false, misfit]
    ofInput .vec3 "tint" (.scalar 1) = .ok u ∧ s.uniform.dirty = false ∧
      s.received true = [⟨⟨4⟩, .vec3 (.splat 1)⟩] ∧ s.received false = [⟨⟨4⟩, .vec3 (.splat 0)⟩] := by
  intro u locations misfit s
  have hcreated : ofInput .vec3 "tint" (.scalar 1) = .ok u := rfl
  obtain ⟨_, _, _, hdirty, _, _, hreceived, _⟩ := run_created (.ofInput hcreated) (fun _ => [])
    [.upload false, .bind locations, misfit, .upload true, .fill 0, .upload false, misfit]
  have hfails : misfit.Fails u.dataType := ⟨_, rfl, [0, 1], rfl, by decide⟩
  have hclean := hdirty.mpr ⟨[.upload false, .bind locations, misfit, .upload true, .fill 0], false,
    [misfit], rfl, by simpa using hfails⟩
  refine ⟨hcreated, hclean, ?_, ?_⟩
  · exact (hreceived true).trans (by decide)
  · exact (hreceived false).trans (by decide)

end Link

end Uniform

end SphereTrace
