import Blockwork.Program.Completeness

/-!
# Handing a context to a backend

Lowering ends the construction of a context, whatever comes of it. The backend gets the context
only if it is complete, and may change the world it works in.
-/

namespace Blockwork

/-- What turns a complete context into an artifact, in some world. -/
abbrev Backend (World : Type) := Context → StateM World (Except Failure Unit)

/-- A backend that counts how often it is given a context. -/
def Backend.counting {World : Type} (backend : Backend World) : Backend (World × Nat) :=
  fun context state =>
    let answer := (backend context).run state.1
    (answer.1, answer.2, state.2 + 1)

namespace Context

/-- Hands the context to a backend, if there is one. -/
def lower {World : Type} (context : Context) (backend : Option (Backend World)) (world : World) :
    Context × World × Except Failure Unit :=
  match context.usable with
  | .error fault => (context, world, .error (.fault fault))
  | .ok () =>
    match backend with
    | none =>
      let fault : Fault := { kind := .invalidHandle, detail := utf8 "nil backend" }
      (context, world, .error (.fault fault))
    | some run =>
      let consumed := { context with phase := .consumed }
      match consumed.validate with
      | .error failure => (consumed, world, .error failure)
      | .ok () =>
        let (outcome, world) := (run consumed).run world
        (consumed, world, outcome)

end Context
end Blockwork
