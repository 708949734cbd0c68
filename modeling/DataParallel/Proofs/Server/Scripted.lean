import DataParallel.Proofs.Server.Watched

/-!
# Scripted servers

A scripted server accepts or refuses an init call as a script says: by the name of the parameter
and the number of init calls that it has got for it.  It may make arrays of its own, but it closes
and writes none of the program's.
-/

namespace DataParallel

open Step

/-- The init calls of the server follow a script and disturb nothing. -/
class Scripted (σ : Type) [ParameterServer σ] where
  /-- What comes of an init call, by the parameter and the number of its earlier ones. -/
  script : σ → String → Nat → Except Fault Unit
  /-- The number of init calls for a parameter. -/
  count : σ → String → Nat
  result_init : ∀ (id : String) (arrays : List ArrayId) (v : σ) (h : Host),
    ((ParameterServer.init id arrays).runFrom (v, h)).1 = script v id (count v id)
  script_init : ∀ (id : String) (arrays : List ArrayId) (v : σ) (h : Host),
    script ((ParameterServer.init id arrays).runFrom (v, h)).2.1 = script v
  count_init : ∀ (id : String) (arrays : List ArrayId) (v : σ) (h : Host) (name : String),
    count ((ParameterServer.init id arrays).runFrom (v, h)).2.1 name =
      count v name + if name = id then 1 else 0
  extends_init : ∀ (id : String) (arrays : List ArrayId) (v : σ) (h : Host),
    h.pool.Extends ((ParameterServer.init id arrays).runFrom (v, h)).2.2.pool
  isOpen_init : ∀ (id : String) (arrays : List ArrayId) (v : σ) (h : Host) (m : ManagerId),
    (((ParameterServer.init id arrays).runFrom (v, h)).2.2.pool.manager m).isOpen =
      (h.pool.manager m).isOpen

namespace Scripted

/-- What comes of a number of init calls that begin with the one of a number: the first fault, if
there is one. -/
def outcome (script : Nat → Except Fault Unit) : Nat → Nat → Except Fault Unit
  | _, 0 => .ok ()
  | first, calls + 1 => do
    script first
    outcome script (first + 1) calls

/-- A server that has got a number of init calls for a parameter, and a host that has kept all that
it had. -/
structure Inits {σ : Type} [ParameterServer σ] [Scripted σ] (id : String) (calls : Nat)
    (v : σ) (p : Pool) (w : σ) (q : Pool) : Prop where
  script : script w = script v
  count : ∀ name, count w name = count v name + if name = id then calls else 0
  pool : p.Extends q
  isOpen : ∀ m, (q.manager m).isOpen = (p.manager m).isOpen

variable {σ : Type} [ParameterServer σ] [Scripted σ] {id : String} {v w u : σ} {p q r : Pool}

theorem Inits.none (id : String) {q : Pool} (hpq : p.Extends q)
    (hopen : ∀ m, (q.manager m).isOpen = (p.manager m).isOpen) : Inits id 0 v p v q where
  script := rfl
  count name := by split <;> rfl
  pool := hpq
  isOpen := hopen

theorem Inits.trans {m n : Nat} (hvw : Inits id m v p w q) (hwu : Inits id n w q u r) :
    Inits id (m + n) v p u r where
  script := hwu.script.trans hvw.script
  count name := by
    rw [hwu.count, hvw.count]
    split
    · omega
    · rfl
  pool := hvw.pool.trans hwu.pool
  isOpen m := (hwu.isOpen m).trans (hvw.isOpen m)

theorem inits_init (id : String) (arrays : List ArrayId) (v : σ) (h : Host) :
    Inits id 1 v h.pool ((ParameterServer.init id arrays).runFrom (v, h)).2.1
      ((ParameterServer.init id arrays).runFrom (v, h)).2.2.pool where
  script := script_init id arrays v h
  count := count_init id arrays v h
  pool := extends_init id arrays v h
  isOpen := isOpen_init id arrays v h

end Scripted

/-! ## A server with a script -/

/-- A server that has a script and numbers the init calls of each parameter. -/
structure ScriptedServer where
  script : String → Nat → Except Fault Unit
  count : String → Nat

namespace ScriptedServer

/-- A server that has got no calls. -/
def new (script : String → Nat → Except Fault Unit) : ScriptedServer := ⟨script, fun _ => 0⟩

instance : ParameterServer ScriptedServer where
  init id _ := .make fun (v, h) =>
    (v.script id (v.count id),
      { v with count := fun name => v.count name + if name = id then 1 else 0 }, h)
  push _ _ _ := pure ()
  pull _ _ _ := pure ()

instance : Scripted ScriptedServer where
  script := ScriptedServer.script
  count := ScriptedServer.count
  result_init _ _ _ _ := rfl
  script_init _ _ _ _ := rfl
  count_init _ _ _ _ _ := rfl
  extends_init _ _ _ h := Pool.Extends.refl h.pool
  isOpen_init _ _ _ _ _ := rfl

instance : Contained ScriptedServer where
  init _ _ _ := Pool.Evolves.refl _
  push _ _ _ _ := Pool.Evolves.refl _
  pull _ _ _ _ := Pool.Evolves.refl _

end ScriptedServer

end DataParallel
