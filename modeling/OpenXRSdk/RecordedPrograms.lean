import OpenXRSdk.StateProgram

/-!
# Programs that keep a record

A recorded program puts down entries while it runs. Without its record it is a program over
a state, and what it puts down depends on the state that it starts in alone.
-/
namespace OpenXRSdk.RecordedPrograms

open StateProgram

variable {ε σ ι α β : Type}

/-- The entries, also when the program stops with a fault, and how it stops. -/
def Recorded (ε σ ι α : Type) := σ → List ι × EStateM.Result ε σ α

instance : Monad (Recorded ε σ ι) where
  pure a := fun s => ([], .ok a s)
  bind x f := fun s =>
    match x s with
    | (entries, .ok a t) => (entries ++ (f a t).1, (f a t).2)
    | (entries, .error e t) => (entries, .error e t)

namespace Recorded

def perform (x : EStateM ε σ α) : Recorded ε σ ι α := fun s => ([], x s)

def enter (i : ι) : Recorded ε σ ι PUnit := fun s => ([i], .ok ⟨⟩ s)

def erase (x : Recorded ε σ ι α) : EStateM ε σ α := fun s => (x s).2

def record (x : Recorded ε σ ι α) (s : σ) : List ι := (x s).1

variable {x : Recorded ε σ ι α} {f : α → Recorded ε σ ι β} {s t : σ} {a : α} {e : ε}

theorem bind_of_run_ok {entries : List ι} (h : x s = (entries, .ok a t)) :
    (x >>= f) s = (entries ++ (f a t).1, (f a t).2) := by
  simp only [bind, h]

theorem bind_of_run_error {entries : List ι} (h : x s = (entries, .error e t)) :
    (x >>= f) s = (entries, .error e t) := by
  simp only [bind, h]

/-! ## Without the record -/

theorem erase_pure (a : α) : erase (pure a : Recorded ε σ ι α) = pure a := rfl

theorem erase_perform (x : EStateM ε σ α) : erase (perform x : Recorded ε σ ι α) = x := rfl

theorem erase_bind (x : Recorded ε σ ι α) (f : α → Recorded ε σ ι β) :
    erase (x >>= f) = erase x >>= fun a => erase (f a) := by
  funext s
  rcases hx : x s with ⟨entries, r⟩
  have hrun : erase x s = r := congrArg Prod.snd hx
  cases r with
  | ok a t =>
    rw [bind_of_ok hrun]
    change ((x >>= f) s).2 = (f a t).2
    rw [bind_of_run_ok hx]
  | error e t =>
    have hplain : (erase x >>= fun a => erase (f a)) s = .error e t :=
      bind_eq_error.mpr (Or.inl hrun)
    rw [hplain]
    change ((x >>= f) s).2 = .error e t
    rw [bind_of_run_error hx]

/-- What is left of each part is what is left of the whole. -/
theorem erase_bind_eq {y : EStateM ε σ α} {g : α → EStateM ε σ β} (hx : erase x = y)
    (hf : ∀ a, erase (f a) = g a) : erase (x >>= f) = y >>= g := by
  rw [erase_bind, hx]
  exact congrArg (y >>= ·) (funext hf)

/-! ## The record -/

theorem record_bind_of_ok (h : erase x s = .ok a t) :
    record (x >>= f) s = record x s ++ record (f a) t := by
  have hx : x s = (record x s, .ok a t) := Prod.ext rfl h
  exact congrArg Prod.fst (bind_of_run_ok hx)

theorem record_bind_of_error (h : erase x s = .error e t) : record (x >>= f) s = record x s := by
  have hx : x s = (record x s, .error e t) := Prod.ext rfl h
  exact congrArg Prod.fst (bind_of_run_error hx)

/-- What is put down at first stays in the record. -/
theorem mem_record_bind {i : ι} (hi : i ∈ record x s) : i ∈ record (x >>= f) s := by
  cases h : erase x s with
  | ok a t =>
    rw [record_bind_of_ok h]
    exact List.mem_append_left _ hi
  | error e t => rwa [record_bind_of_error h]

/-- A beginning that puts nothing down. -/
theorem record_perform_bind {y : EStateM ε σ α} (h : y s = .ok a t) :
    record ((perform y : Recorded ε σ ι α) >>= f) s = record (f a) t :=
  record_bind_of_ok h

/-! ## What holds of every entry -/

/-- Every entry that is put down, from whatever state, is one of these. -/
def Enters (p : ι → Prop) (x : Recorded ε σ ι α) : Prop := ∀ s, ∀ i ∈ record x s, p i

section Enters
variable {p : ι → Prop}

theorem Enters.pure (a : α) : Enters p (pure a : Recorded ε σ ι α) := by
  intro s i hi
  cases hi

theorem Enters.perform (x : EStateM ε σ α) : Enters p (perform x : Recorded ε σ ι α) := by
  intro s i hi
  cases hi

theorem Enters.bind (hx : Enters p x) (hf : ∀ a, Enters p (f a)) : Enters p (x >>= f) := by
  intro s i hi
  cases he : erase x s with
  | ok a t =>
    rw [record_bind_of_ok he] at hi
    rcases List.mem_append.mp hi with hi | hi
    · exact hx s i hi
    · exact hf a t i hi
  | error e t =>
    rw [record_bind_of_error he] at hi
    exact hx s i hi

end Enters

end Recorded
end OpenXRSdk.RecordedPrograms
