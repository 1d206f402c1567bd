/-! Computations that may fail and record the places where they look something up. What was recorded before a
failure stays. -/
namespace Recording

structure Recorded (ι ε α : Type) where
  record : List ι
  result : Except ε α

variable {ι ε α β : Type}

def fail (e : ε) : Recorded ι ε α := ⟨[], .error e⟩

def lookUp (i : ι) (value : α) : Recorded ι ε α := ⟨[i], .ok value⟩

instance : Monad (Recorded ι ε) where
  pure a := ⟨[], .ok a⟩
  bind x f :=
    match x.result with
    | .error e => ⟨x.record, .error e⟩
    | .ok a => ⟨x.record ++ (f a).record, (f a).result⟩

@[simp] theorem result_pure (a : α) : (pure a : Recorded ι ε α).result = .ok a := rfl

/-- Without the record it is the computation that may fail. -/
theorem result_bind (x : Recorded ι ε α) (f : α → Recorded ι ε β) :
    (x >>= f).result = x.result >>= fun a => (f a).result := by
  obtain ⟨record, result⟩ := x
  cases result with
  | error e => rfl
  | ok a => rfl

end Recording
