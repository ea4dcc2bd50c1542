import Mathlib.Data.List.Nodup

/-!
# The legacy parameter override

An object is the list of its members as the body has them. `sjson.SetBytes` is modelled for a path of one literal part;
what the library does with any other path is a parameter. The audit records are left out.
-/

namespace NewApi.Relay
variable {α : Type}

abbrev Members (α : Type) := List (String × α)

/-- The map that `json.Unmarshal` fills: the last member of a name counts. -/
def decoded : Members α → String → Option α
  | [], _ => none
  | (name, value) :: rest, key => (decoded rest key).or (if name = key then some value else none)

def setMember (key : String) (value : α) : Members α → Members α
  | [] => [(key, value)]
  | (name, old) :: rest => if name = key then (name, value) :: rest else (name, old) :: setMember key value rest

def literalPart : List Char → Option (List Char)
  | [] => some []
  | '\\' :: rest => match rest with
    | [] => some []
    | escaped :: rest => (literalPart rest).map (escaped :: ·)
  | char :: rest => if char ∈ ".|#@*?".toList then none else (literalPart rest).map (char :: ·)

abbrev SetPath (α : Type) := Members α → String → α → Except String (Members α)

/-- A leading colon only forces a numeric part to be a key. -/
def setBytes (setOther : SetPath α) : SetPath α := fun members path value =>
  if path = "" then .error "path cannot be empty" else
    match literalPart (if path.toList.head? = some ':' then path.toList.tail else path.toList) with
    | some part => .ok (setMember (String.ofList part) value members)
    | none => setOther members path value

def escapeSjsonLiteralKey (key : String) : String :=
  if key.toList.any (".*?\\".toList.contains ·) then
    String.ofList (key.toList.flatMap fun c => if ".*?\\".toList.contains c then ['\\', c] else [c])
  else key

def applyOperationsLegacy (setOther : SetPath α) (jsonData paramOverride : Members α) : Except String (Members α) :=
  if paramOverride.isEmpty then .ok jsonData else
    paramOverride.foldlM (fun result (key, value) => setBytes setOther result
      (escapeSjsonLiteralKey key) value) jsonData

end NewApi.Relay
