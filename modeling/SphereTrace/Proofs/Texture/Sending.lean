import Mathlib.Data.List.Basic
import SphereTrace.Proofs.Texture.Parameters
import SphereTrace.Texture.Registry

/-! # Sending an upload to a program

An upload answers with its writes. A program receives them one at a time while the upload goes
through the uniforms, and the caller is told how many there were. The loop that does this is defined
here for a program of any kind of state, and shown to send exactly those writes in their order.
-/

namespace SphereTrace

variable {σ : Type} (write : σ → Write → σ)

/-- Uploads one uniform into a program, and answers whether the program received a write. -/
def Uniform.send (u : Uniform) (program : σ) : Uniform × σ × Bool :=
  if u.dirty then
    match u.location with
    | some location => ({ u with dirty := false }, write program ⟨location, u.value⟩, true)
    | none => ({ u with dirty := false }, program, false)
  else (u, program, false)

theorem Uniform.send_eq (u : Uniform) (program : σ) :
    u.send write program =
      (u.upload.1, u.upload.2.toList.foldl write program, u.upload.2.isSome) := by
  unfold send upload
  by_cases hdirty : u.dirty
  · cases hlocation : u.location <;> simp [hdirty]
  · simp [hdirty]

namespace Texture

/-- Uploads the uniforms that stand in the program, in order, and counts the writes. -/
def Instance.sendBacked : List Parameter → List Uniform → σ → Nat → List Uniform × σ × Nat
  | p :: ps, u :: us, program, count =>
    if p.isUniform then
      let (sent, program, written) := u.send write program
      let (rest, program, count) :=
        Instance.sendBacked ps us program (if written then count + 1 else count)
      (sent :: rest, program, count)
    else
      let (rest, program, count) := Instance.sendBacked ps us program count
      (u :: rest, program, count)
  | _, us, program, count => (us, program, count)

theorem Instance.sendBacked_eq (ps : List Parameter) (us : List Uniform) (program : σ)
    (count : Nat) :
    sendBacked write ps us program count =
      ((mapBacked Uniform.upload ps us).1,
        ((mapBacked Uniform.upload ps us).2.filterMap id).foldl write program,
        count + ((mapBacked Uniform.upload ps us).2.filterMap id).length) := by
  induction ps generalizing us program count with
  | nil => cases us <;> rfl
  | cons p rest ih =>
      cases us with
      | nil => rfl
      | cons u others =>
          by_cases hp : p.isUniform
          · have hsend := u.send_eq write program
            cases hwrite : u.upload.2 with
            | none => simp [sendBacked, mapBacked, hp, hsend, hwrite, ih]
            | some w => simp [sendBacked, mapBacked, hp, hsend, hwrite, ih, Nat.add_assoc,
                Nat.add_comm 1]
          · simp [sendBacked, mapBacked, hp, ih]

namespace Registry

/-- Uploads instance by instance. -/
def sendInstances : List Instance → σ → Nat → List Instance × σ × Nat
  | [], program, count => ([], program, count)
  | t :: ts, program, count =>
    let (uniforms, program, count) :=
      Instance.sendBacked write t.kind.parameters t.uniforms program count
    let (rest, program, count) := sendInstances ts program count
    ({ t with uniforms } :: rest, program, count)

/-- Uploads into a program, and answers with the number of writes. -/
def send (r : Registry) (program : σ) : Registry × σ × Nat :=
  let (instances, program, count) := sendInstances write r.instances program 0
  ({ r with instances }, program, count)

theorem sendInstances_eq (ts : List Instance) (program : σ) (count : Nat) :
    sendInstances write ts program count =
      (ts.map fun t => t.upload.1,
        (ts.flatMap fun t => t.upload.2).foldl write program,
        count + (ts.flatMap fun t => t.upload.2).length) := by
  induction ts generalizing program count with
  | nil => rfl
  | cons t rest ih =>
      simp only [sendInstances, Instance.sendBacked_eq, ih, List.map_cons, List.flatMap_cons,
        List.foldl_append, List.length_append, ← Nat.add_assoc]
      rfl

theorem upload_fst (r : Registry) :
    r.upload.1 = { r with instances := r.instances.map fun t => t.upload.1 } := by
  simp only [upload, List.map_map]
  rfl

theorem upload_snd (r : Registry) :
    r.upload.2 = r.instances.flatMap fun t => t.upload.2 := by
  simp only [upload, List.flatMap_map]

theorem upload_snd_declared (r : Registry) :
    r.upload.2 = r.declared.filterMap fun u => u.upload.2 := by
  rw [upload_snd, declared, List.filterMap_flatMap]
  exact List.flatMap_congr fun t _ => t.upload_snd_declared

theorem declared_bind (r : Registry) (locations : Locations) :
    (r.bind locations).declared = r.declared.map fun u => u.bind locations := by
  simp only [declared, bind, List.flatMap_map, List.map_flatMap]
  exact List.flatMap_congr fun t _ =>
    Instance.declared_of_onBacked (Instance.parameters_bind locations)

/-- A program receives the writes of an upload in their order, and the count is theirs. -/
theorem send_eq (r : Registry) (program : σ) :
    r.send write program = (r.upload.1, r.upload.2.foldl write program, r.upload.2.length) := by
  simp only [send, sendInstances_eq, upload_fst, upload_snd, Nat.zero_add]

end Registry

end Texture

end SphereTrace
