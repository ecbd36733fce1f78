import TaggedBlock.Block

set_option autoImplicit false

namespace TaggedBlock

def firstError {ε α : Type} : List (Except ε α) → Except ε (List α)
  | [] => .ok []
  | .error error :: _ => .error error
  | .ok value :: results => (firstError results).map (value :: ·)

def inTurn {ε α β : Type} (work : α → Except ε β) : List α → Except ε (List β)
  | [] => .ok []
  | element :: elements =>
    match work element with
    | .error error => .error error
    | .ok value => (inTurn work elements).map (value :: ·)

def sideBySide {ε α β : Type} (work : α → Except ε β) (elements : List α) : Except ε (List β) :=
  firstError ((elements.map fun element => Task.spawn fun _ => work element).map Task.get)

namespace Registry

def wrapAll (registry : Registry) (algorithm : Algorithm) (chunks : List Bytes) :
    Except Error (List Bytes) :=
  match registry.resolve algorithm with
  | .error error => .error error
  | .ok _ => sideBySide (registry.wrap algorithm) chunks

def unwrapAll (registry : Registry) (blocks : List Bytes) : Except Error (List Bytes) :=
  sideBySide registry.unwrap blocks

end Registry

end TaggedBlock
