import Nrfxlib.Lib.Memory

/-!
Programs that read a memory byte by byte.

`eval` runs such a program and `footprint` lists the addresses that it reads.
A program cannot tell two memories apart that agree on its footprint.
-/

namespace Nrfxlib.Lib

inductive Access (Alpha : Type) where
  | done (value : Alpha)
  | read (address : Nat) (next : UInt8 → Access Alpha)

namespace Access

variable {Alpha Beta : Type}

def bind (program : Access Alpha) (next : Alpha → Access Beta) : Access Beta :=
  match program with
  | .done value => next value
  | .read address rest => .read address fun byte => (rest byte).bind next

instance : Monad Access where
  pure := .done
  bind := bind

def byteAt (address : Nat) : Access UInt8 := .read address .done

variable (bytes : Memory)

def eval : Access Alpha → Alpha
  | .done value => value
  | .read address next => (next (bytes address)).eval

def footprint : Access Alpha → List Nat
  | .done _ => []
  | .read address next => address :: (next (bytes address)).footprint

/-- Every address that is read lies below `bound`. -/
def StaysBelow (bound : Nat) (program : Access Alpha) : Prop :=
  ∀ address ∈ program.footprint bytes, address < bound

@[simp]
theorem eval_pure (value : Alpha) : (pure value : Access Alpha).eval bytes = value := rfl

@[simp]
theorem eval_byteAt (address : Nat) : (byteAt address).eval bytes = bytes address := rfl

@[simp]
theorem eval_bind (program : Access Alpha) (next : Alpha → Access Beta) :
    (program >>= next).eval bytes = (next (program.eval bytes)).eval bytes := by
  induction program with
  | done value => rfl
  | read address rest inductionHypothesis => exact inductionHypothesis (bytes address)

@[simp]
theorem eval_ite (condition : Prop) [Decidable condition] (first second : Access Alpha) :
    (if condition then first else second).eval bytes =
      if condition then first.eval bytes else second.eval bytes := by
  split_ifs <;> rfl

@[simp]
theorem footprint_pure (value : Alpha) : (pure value : Access Alpha).footprint bytes = [] := rfl

@[simp]
theorem footprint_byteAt (address : Nat) : (byteAt address).footprint bytes = [address] := rfl

@[simp]
theorem footprint_bind (program : Access Alpha) (next : Alpha → Access Beta) :
    (program >>= next).footprint bytes =
      program.footprint bytes ++ (next (program.eval bytes)).footprint bytes := by
  induction program with
  | done value => rfl
  | read address rest inductionHypothesis =>
      exact congrArg (address :: ·) (inductionHypothesis (bytes address))

@[simp]
theorem footprint_ite (condition : Prop) [Decidable condition] (first second : Access Alpha) :
    (if condition then first else second).footprint bytes =
      if condition then first.footprint bytes else second.footprint bytes := by
  split_ifs <;> rfl

variable {bytes} {bound : Nat}

@[simp]
theorem staysBelow_pure (value : Alpha) : (pure value : Access Alpha).StaysBelow bytes bound :=
  nofun

@[simp]
theorem staysBelow_byteAt (address : Nat) :
    (byteAt address).StaysBelow bytes bound ↔ address < bound := by
  simp [StaysBelow]

@[simp]
theorem staysBelow_bind (program : Access Alpha) (next : Alpha → Access Beta) :
    (program >>= next).StaysBelow bytes bound ↔
      program.StaysBelow bytes bound ∧ (next (program.eval bytes)).StaysBelow bytes bound := by
  simp only [StaysBelow, footprint_bind, List.forall_mem_append]

@[simp]
theorem staysBelow_ite (condition : Prop) [Decidable condition] (first second : Access Alpha) :
    (if condition then first else second).StaysBelow bytes bound ↔
      (condition → first.StaysBelow bytes bound) ∧
        (¬ condition → second.StaysBelow bytes bound) := by
  by_cases chosen : condition <;> simp [chosen]

/-- Memories that agree on the footprint of a program give the same result. -/
theorem eval_congr {other : Memory} {program : Access Alpha}
    (agree : ∀ address ∈ program.footprint bytes, other address = bytes address) :
    program.eval other = program.eval bytes := by
  induction program with
  | done value => rfl
  | read address rest inductionHypothesis =>
      have same : other address = bytes address := agree address List.mem_cons_self
      rw [eval, eval, same]
      exact inductionHypothesis (bytes address) fun later member =>
        agree later (List.mem_cons_of_mem _ member)

/-- The same for memories that agree below a bound. -/
theorem StaysBelow.eval_congr {other : Memory} {program : Access Alpha}
    (below : program.StaysBelow bytes bound)
    (agree : ∀ address < bound, other address = bytes address) :
    program.eval other = program.eval bytes :=
  Access.eval_congr fun address member => agree address (below address member)

end Access

end Nrfxlib.Lib
