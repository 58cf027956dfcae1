import Mathlib.Data.List.Induction
import Mathlib.Data.List.Nodup
import SphereTrace.Proofs.Texture.Run
import SphereTrace.Texture.Builtin

/-! # Order and repetition of bodies

The dispatch writes the texts that its instances need, each at its first mention. To leave the later
mentions out puts no text in front of another that it needs, and further instances only add to the
end. Texts are told apart as they came, but written without the blanks at their ends, so one text
can still be written twice; this happens between texts that differ in these blanks and never
otherwise.
-/

namespace SphereTrace.Texture

namespace Dispatch

/-- Every text stands behind all texts that it needs. -/
def InOrder (needs : String → String → Prop) (texts : List String) : Prop :=
  ∀ before text after, texts = before ++ text :: after →
    ∀ other, needs text other → other ∈ before

section Order

variable {needs : String → String → Prop} {first second texts : List String} {text : String}

theorem inOrder_nil : InOrder needs [] := by
  intro before text after heq
  simp at heq

theorem inOrder_concat : InOrder needs (texts ++ [text]) ↔
    InOrder needs texts ∧ ∀ other, needs text other → other ∈ texts := by
  constructor
  · intro h
    refine ⟨?_, h texts text [] rfl⟩
    rintro before other after rfl
    exact h before other (after ++ [text]) (by simp)
  · rintro ⟨horder, hneeds⟩ before other after heq
    rcases List.eq_nil_or_concat' after with rfl | ⟨init, last, rfl⟩
    · obtain ⟨rfl, hlast⟩ := List.append_inj' heq rfl
      obtain rfl : text = other := by simpa using hlast
      exact hneeds
    · rw [← List.cons_append, ← List.append_assoc] at heq
      exact horder before other init (List.append_inj' heq rfl).1

theorem InOrder.append (hfirst : InOrder needs first) (hsecond : InOrder needs second) :
    InOrder needs (first ++ second) := by
  induction second using List.reverseRecOn with
  | nil => rw [List.append_nil]; exact hfirst
  | append_singleton init last ih =>
      obtain ⟨hinit, hlast⟩ := inOrder_concat.mp hsecond
      rw [← List.append_assoc, inOrder_concat]
      refine ⟨ih hinit, ?_⟩
      intro other hother
      exact List.mem_append_right first (hlast other hother)

theorem InOrder.flatMap {α : Type} {f : α → List String} {xs : List α}
    (h : ∀ x ∈ xs, InOrder needs (f x)) : InOrder needs (xs.flatMap f) := by
  induction xs with
  | nil => exact inOrder_nil
  | cons x rest ih =>
      rw [List.flatMap_cons]
      apply (h x List.mem_cons_self).append
      exact ih fun y hy => h y (List.mem_cons_of_mem _ hy)

/-- One more mention adds the text unless it was there before. -/
theorem eraseDups_concat (texts : List String) (text : String) :
    (texts ++ [text]).eraseDups =
      if text ∈ texts then texts.eraseDups else texts.eraseDups ++ [text] := by
  rw [List.eraseDups_append]
  split
  next h => simp [List.removeAll, h]
  next h => simp [List.removeAll, h, List.eraseDups_cons]

/-- A text that is needed has its first mention in front of the first mention of the other. -/
theorem InOrder.eraseDups (h : InOrder needs texts) : InOrder needs texts.eraseDups := by
  -- From the end, since the last mention is the one that is left out.
  induction texts using List.reverseRecOn with
  | nil => exact inOrder_nil
  | append_singleton init last ih =>
      obtain ⟨hinit, hlast⟩ := inOrder_concat.mp h
      rw [eraseDups_concat]
      split
      next => exact ih hinit
      next =>
        refine inOrder_concat.mpr ⟨ih hinit, ?_⟩
        intro other hother
        exact List.mem_eraseDups.mpr (hlast other hother)

theorem nodup_eraseDups (texts : List String) : texts.eraseDups.Nodup := by
  induction texts using List.reverseRecOn with
  | nil => exact List.nodup_nil
  | append_singleton init last ih =>
      rw [eraseDups_concat]
      split
      next => exact ih
      next hnew =>
        apply List.Nodup.append ih (List.nodup_singleton last)
        rw [List.disjoint_singleton, List.mem_eraseDups]
        exact hnew

end Order

variable {instances : List Instance}

theorem nodup_chunks (instances : List Instance) : (chunks instances).Nodup :=
  nodup_eraseDups _

theorem mem_chunks {chunk : String} :
    chunk ∈ chunks instances ↔ ∃ t ∈ instances, chunk ∈ t.source.chunks := by
  rw [chunks, List.mem_eraseDups, List.mem_flatMap]

/-- Further instances add texts at the end. -/
theorem chunks_append (first rest : List Instance) :
    ∃ more, chunks (first ++ rest) = chunks first ++ more := by
  rw [chunks, List.flatMap_append, List.eraseDups_append]
  exact ⟨_, rfl⟩

theorem writeBodies_append (first rest : List Instance) :
    ∃ more, writeBodies (first ++ rest) = writeBodies first ++ more := by
  obtain ⟨more, hmore⟩ := chunks_append first rest
  refine ⟨String.join (more.map writeChunk), ?_⟩
  rw [writeBodies, hmore, List.map_append, String.join_append]
  rfl

/-- Whatever it is that texts need of each other, if every instance lists its helpers and its body
in order, the bodies of all instances are written in order, each without the blanks at its end and
with an empty line behind it. Each text of each instance is written once and nothing else is, and
the bodies of the first instances stay as they are at the front. -/
theorem inOrder_writeBodies (needs : String → String → Prop) (instances : List Instance)
    (h : ∀ t ∈ instances, InOrder needs (t.source.helpers ++ [t.source.body])) :
    writeBodies instances =
        String.join ((chunks instances).map fun chunk => Text.trimEnd chunk ++ "\n\n") ∧
      (chunks instances).Nodup ∧
      (∀ chunk, chunk ∈ chunks instances ↔
        ∃ t ∈ instances, chunk ∈ t.source.helpers ++ [t.source.body]) ∧
      InOrder needs (chunks instances) ∧
      ∀ first rest, instances = first ++ rest →
        ∃ more, writeBodies instances = writeBodies first ++ more := by
  refine ⟨rfl, nodup_chunks instances, fun chunk => mem_chunks, ?_, ?_⟩
  · exact (InOrder.flatMap h).eraseDups
  · rintro first rest rfl
    exact writeBodies_append first rest

/-- Both variants of simplex noise, of which each needs the noise itself. -/
theorem inOrder_writeBodies_noise :
    let noise := Builtin.chunk Noise.simplex
    let r := Registry.after .builtin
      [.texture "noise" .empty, .texture "noise" .empty, .setVariant 1 .planar]
    InOrder (fun text other => text ≠ noise ∧ other = noise) (chunks r.instances) := by
  intro noise r
  have hsources : r.instances.map Instance.source = Builtin.noise.sources := by rfl
  refine (inOrder_writeBodies _ r.instances ?_).2.2.2.1
  intro t ht
  have hsource : t.source ∈ Builtin.noise.sources :=
    hsources ▸ List.mem_map_of_mem (f := Instance.source) ht
  have hhelpers : t.source.helpers = [] ++ [noise] := by
    rcases List.mem_pair.mp hsource with hs | hs <;> rw [hs] <;> rfl
  rw [hhelpers, inOrder_concat, inOrder_concat]
  refine ⟨⟨inOrder_nil, ?_⟩, ?_⟩
  · rintro other ⟨hne, -⟩
    exact absurd rfl hne
  · rintro other ⟨-, rfl⟩
    exact List.mem_singleton_self _

/-- The texts as they are written, without the blank lines between them. -/
def pieces (instances : List Instance) : List String :=
  (chunks instances).map Text.trimEnd

/-- No text is written twice exactly if no two texts of the instances differ in the blanks at their
ends alone. -/
theorem nodup_pieces_iff (instances : List Instance) :
    writeBodies instances = String.join ((pieces instances).map (· ++ "\n\n")) ∧
      ((pieces instances).Nodup ↔
        ∀ t ∈ instances, ∀ chunk ∈ t.source.chunks, ∀ t' ∈ instances, ∀ other ∈ t'.source.chunks,
          Text.trimEnd chunk = Text.trimEnd other → chunk = other) := by
  constructor
  · rw [pieces, List.map_map]
    rfl
  · rw [pieces, List.nodup_map_iff_inj_on (nodup_chunks instances)]
    constructor
    · intro h t ht chunk hchunk t' ht' other hother
      exact h chunk (mem_chunks.mpr ⟨t, ht, hchunk⟩) other (mem_chunks.mpr ⟨t', ht', hother⟩)
    · intro h chunk hchunk other hother
      obtain ⟨t, ht, hchunk⟩ := mem_chunks.mp hchunk
      obtain ⟨t', ht', hother⟩ := mem_chunks.mp hother
      exact h t ht chunk hchunk t' ht' other hother

/-- A texture that shares its helper with others, but for what stands at its end. -/
def dimmed (name ending : String) : Kind where
  name := name
  solid := some
    { entry := name
      body := "vec3 " ++ name ++ "( vec3 pos, vec3 nor ) \x7b return dim( nor ); \x7d"
      helpers := ["vec3 dim( vec3 v ) \x7b return .5 * v; \x7d" ++ ending] }

/-- A line end behind one of two equal helpers has the helper written twice. -/
theorem not_nodup_pieces_dimmed :
    let r := Registry.after ⟨[dimmed "plain" "", dimmed "ended" "\n"]⟩
      [.texture "plain" .empty, .texture "ended" .empty]
    (∀ k ∈ r.catalog.kinds, k.validate = .ok ()) ∧
      pieces r.instances =
        ["vec3 dim( vec3 v ) \x7b return .5 * v; \x7d",
          "vec3 plain( vec3 pos, vec3 nor ) \x7b return dim( nor ); \x7d",
          "vec3 dim( vec3 v ) \x7b return .5 * v; \x7d",
          "vec3 ended( vec3 pos, vec3 nor ) \x7b return dim( nor ); \x7d"] ∧
      ¬ (pieces r.instances).Nodup := by
  decide +kernel

end Dispatch

end SphereTrace.Texture
