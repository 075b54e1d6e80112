import VmLaunch.Provider.Work
import VmLaunch.Source.Record
import VmLaunch.Text.Percent

/-!
# Paged lists

A list arrives in pages. Each page may name the token of the next one; the walk
ends at a page that names none, or that names the token just used. The items of
all pages are one list, and a page that fails or cannot be read gives no items
at all.
-/

namespace VmLaunch

/-- One page: its items and the token of the next page. -/
structure Page (α : Type) where
  items : List α
  next : Option String

namespace Page

/-- Whether a byte stands for itself within a query value. -/
def isUnreserved (b : UInt8) : Bool :=
  (0x30 ≤ b && b ≤ 0x39) || (0x41 ≤ b && b ≤ 0x5A) || (0x61 ≤ b && b ≤ 0x7A) ||
    b == 0x2D || b == 0x2E || b == 0x5F || b == 0x7E

/-- A text as a query value. -/
def encodeQueryValue (s : String) : String :=
  Percent.encode isUnreserved s

/-- The path of a page: the list's path with the token as a query parameter. -/
def path (list : String) : Option String → String
  | none => list
  | some token =>
    list ++ (if Text.hasChar list '?' then "&" else "?") ++ "pageToken=" ++ encodeQueryValue token

open Source in
/-- A page of values that are read one by one; no body at all is an empty page. -/
def decode {α : Type} (read : Json → Option α) (body : Json) : Option (Page α) :=
  if body.isNull then some ⟨[], none⟩
  else do
    let slots ← slots? ["items", "nextPageToken"] body
    let items ← slots.fieldOr "items" [] (list read)
    let next ← slots.fieldOr "nextPageToken" none optionalText
    return ⟨items, next⟩

/-- The token to go on with after a page that was asked for with `used`. -/
def continuation (used : Option String) (next : Option String) : Option String :=
  match next with
  | some token => if token == "" || used == some token then none else some token
  | none => none

/-- Walk on from a token with the items of earlier pages. -/
def walk {α : Type} (env : Environment) (read : Json → Option α) (list : String) :
    Nat → Option String → List α → Work World (List α)
  | 0, _, _ => Work.unfinished
  | rounds + 1, token, items => do
    let body ← env.callOr (.get (path list token)) (.provider (.list list))
    let page ← Work.require (.page list) (decode read body)
    match continuation token page.next with
    | some next => walk env read list rounds (some next) (items ++ page.items)
    | none => return items ++ page.items

/-- Every item of a list. -/
def fetchAll {α : Type} (env : Environment) (read : Json → Option α) (list : String) :
    Work World (List α) :=
  walk env read list env.patience none []

end Page

end VmLaunch
