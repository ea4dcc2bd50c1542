import Mathlib.Data.List.DropRight
import Mathlib.Data.List.Infix

namespace NewApi.Common

def isSpace (c : Char) : Bool :=
  c.val ∈ [0x09, 0x0A, 0x0B, 0x0C, 0x0D, 0x20, 0x85, 0xA0, 0x1680, 0x2028, 0x2029, 0x202F, 0x205F, 0x3000] ||
    (0x2000 ≤ c.val && c.val ≤ 0x200A)

def trimSpace (text : String) : String :=
  String.ofList ((text.toList.dropWhile isSpace).reverse.dropWhile isSpace).reverse

def containsText (text part : String) : Bool := decide (part.toList <:+: text.toList)

def hasPrefix (text start : String) : Bool := decide (start.toList <+: text.toList)

def hasSuffix (text ending : String) : Bool := decide (ending.toList <:+ text.toList)

def trimSuffix (text ending : String) : String :=
  if hasSuffix text ending then String.ofList (text.toList.take (text.toList.length - ending.toList.length)) else text

def splitText (text : String) (separator : Char) : List String := (text.toList.splitOn separator).map String.ofList

def trimChar (text : String) (c : Char) : String :=
  String.ofList ((text.toList.dropWhile (· = c)).reverse.dropWhile (· = c)).reverse

def foldChar (c : Char) : Char := if c = 'ſ' then 's' else if c = 'K' then 'k' else c.toLower

def equalFold (text ascii : String) : Bool := decide (text.toList.map foldChar = ascii.toList.map foldChar)

theorem dropWhile_rdropWhile {α : Type} (p : α → Bool) (l : List α) :
    ((l.dropWhile p).rdropWhile p).dropWhile p = (l.dropWhile p).rdropWhile p := by
  have starts := List.rdropWhile_prefix p (l.dropWhile p)
  cases kept : (l.dropWhile p).rdropWhile p with
  | nil => rfl
  | cons first =>
    rw [kept] at starts
    obtain ⟨_, whole⟩ := starts
    have holds : p first = false := by
      have head := List.head?_dropWhile_not p l
      rw [← whole] at head
      simpa using head
    rw [List.dropWhile_cons_of_neg (by simp [holds])]

theorem trimSpace_trimSpace (text : String) : trimSpace (trimSpace text) = trimSpace text := by
  have trim : ∀ text, trimSpace text =
    String.ofList ((text.toList.dropWhile isSpace).rdropWhile isSpace) := fun _ => rfl
  rw [trim (trimSpace text), trim text, String.toList_ofList, dropWhile_rdropWhile, List.rdropWhile_idempotent]

end NewApi.Common
