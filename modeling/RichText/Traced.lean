import RichText.Notice

/-!
Computations that leave notices. `Noted` always has a result; `Traced` may stop with a fault, and
keeps the notices that it left before.
-/

namespace RichText

structure Noted (α : Type) where
  notices : List Notice
  value : α

namespace Noted

instance : Monad Noted where
  pure value := ⟨[], value⟩
  bind first next :=
    let second := next first.value
    ⟨first.notices ++ second.notices, second.value⟩

def note (notice : Notice) : Noted Unit := ⟨[notice], ()⟩

end Noted

structure Traced (ε α : Type) where
  notices : List Notice
  outcome : Except ε α

namespace Traced

variable {ε α : Type}

instance : Monad (Traced ε) where
  pure value := ⟨[], .ok value⟩
  bind first next :=
    match first.outcome with
    | .error fault => ⟨first.notices, .error fault⟩
    | .ok value =>
        let second := next value
        ⟨first.notices ++ second.notices, second.outcome⟩

def note (notice : Notice) : Traced ε Unit := ⟨[notice], .ok ()⟩

def fail (fault : ε) : Traced ε α := ⟨[], .error fault⟩

def ofNoted (noted : Noted α) : Traced ε α := ⟨noted.notices, .ok noted.value⟩

def ofExcept (outcome : Except ε α) : Traced ε α := ⟨[], outcome⟩

def mapFault {δ : Type} (rename : ε → δ) (traced : Traced ε α) : Traced δ α :=
  ⟨traced.notices, traced.outcome.mapError rename⟩

instance : MonadLift Noted (Traced ε) := ⟨ofNoted⟩

end Traced

end RichText
