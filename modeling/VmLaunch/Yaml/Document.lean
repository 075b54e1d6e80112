import VmLaunch.Yaml.Token

/-!
# YAML documents

A document is built from its tokens. Where nothing is written there is an empty plain
scalar; an alias stands for the value under the anchor of that name that was met last.
`parse?` reads a text that is one document.
-/

namespace VmLaunch.Yaml

/-- A value under an anchor; none while the value is still being built. -/
structure Anchored where
  name : String
  number : Nat
  value : Option Yaml := none
  /-- How many aliases are followed within the value. -/
  follows : Nat := 0

/-- How far a document has been built: the tokens that are left, the anchors, last first,
what the handles of tags stand for, and how many values have been met and aliases
followed. -/
structure Builder where
  tokens : List Token
  anchors : List Anchored := []
  handles : List (String × String) := []
  met : Nat := 0
  follows : Nat := 0

namespace Builder

/-- Go on with other tokens. -/
def goOn (tokens : List Token) (b : Builder) : Builder :=
  { b with tokens }

/-- Count values. -/
def meet (count : Nat) (b : Builder) : Builder :=
  { b with met := b.met + count }

/-- Leave a place empty. -/
def leaveBlank (b : Builder) : Yaml × Builder :=
  (blank, b.meet 1)

/-- Whether one of some tokens comes next. -/
def nextIn (tokens : List Token) (b : Builder) : Bool :=
  b.tokens.head?.any tokens.contains

/-- Announce an anchor. -/
def announce (name : Option String) (b : Builder) : Builder :=
  match name with
  | some name => { b with anchors := ⟨name, b.anchors.length, none, b.follows⟩ :: b.anchors }
  | none => b

/-- Set the value of the anchor with a number. -/
def settle (number : Nat) (value : Yaml) (b : Builder) : Builder :=
  { b with
    anchors := b.anchors.map fun a =>
      if a.number == number then { a with value := some value, follows := b.follows - a.follows }
      else a }

/-- Follow an alias. The value of an anchor within itself is out of reach. -/
def follow? (name : String) (b : Builder) : Option (Yaml × Builder) :=
  (b.anchors.find? fun a => a.name == name).map fun a =>
    match a.value with
    | some value => (value, { b with met := b.met + 1, follows := b.follows + 1 + a.follows })
    | none => (.beyond, { b with met := b.met + 1, follows := b.follows + 1 })

end Builder

/-- What stands in front of a value: an anchor and a tag, in either order. -/
structure Properties where
  anchor : Option String := none
  tag : Option (String × String) := none

/-- Read what stands in front of a value. -/
def Properties.read : List Token → Properties × List Token
  | .anchor name :: .tag handle suffix :: rest => (⟨some name, some (handle, suffix)⟩, rest)
  | .tag handle suffix :: .anchor name :: rest => (⟨some name, some (handle, suffix)⟩, rest)
  | .anchor name :: rest => (⟨some name, none⟩, rest)
  | .tag handle suffix :: rest => (⟨none, some (handle, suffix)⟩, rest)
  | rest => ({}, rest)

/-- Whether anything stands in front of a value. -/
def Properties.isEmpty (p : Properties) : Bool :=
  p.anchor.isNone && p.tag.isNone

/-- What the handles of tags stand for when a document does not say. -/
def standardHandles : List (String × String) :=
  [("!", "!"), ("!!", "tag:yaml.org,2002:")]

/-- The whole of a tag; the outer option is empty when its handle stands for nothing. -/
def fullTag? (b : Builder) : Option (String × String) → Option (Option String)
  | none => some none
  | some ("", suffix) => some (some suffix)
  | some (handle, suffix) =>
    ((b.handles ++ standardHandles).lookup handle).map fun start => some (start ++ suffix)

mutual

/-- The next value. Block collections begin only in a block; a list whose hyphens stand
in the column of its key begins only under that key. -/
def node? : Nat → Bool → Bool → Builder → Option (Yaml × Builder)
  | 0, _, _, _ => none
  | fuel + 1, block, underKey, b =>
    match b.tokens with
    | .alias name :: rest => (b.goOn rest).follow? name
    | _ =>
      let (properties, rest) := Properties.read b.tokens
      match fullTag? b properties.tag with
      | none => none
      | some tag =>
        let number := b.anchors.length
        let start := (b.goOn rest).announce properties.anchor
        match content? fuel block underKey tag (!properties.isEmpty) start with
        | none => none
        | some (tree, b) =>
          some (tree, if properties.anchor.isSome then b.settle number tree else b)

/-- The value after its properties; it may be left out when there are any. -/
def content? : Nat → Bool → Bool → Option String → Bool → Builder → Option (Yaml × Builder)
  | 0, _, _, _, _, _ => none
  | fuel + 1, block, underKey, tag, mayLack, b =>
    match b.tokens with
    | .scalar style text :: rest => some (.scalar { text, style, tag }, (b.goOn rest).meet 1)
    | .flowList :: rest =>
      (flowItems? fuel true ((b.goOn rest).meet 2)).map fun (items, b) => (.list tag items, b)
    | .flowMapping :: rest =>
      (flowMembers? fuel true ((b.goOn rest).meet 2)).map fun (members, b) =>
        (.mapping tag members, b)
    | token :: rest =>
      if token == .blockEntry && underKey then
        (entriesUnderKey? fuel (b.meet 2)).map fun (items, b) => (.list tag items, b)
      else if token == .blockList && block then
        (blockItems? fuel ((b.goOn rest).meet 2)).map fun (items, b) => (.list tag items, b)
      else if token == .blockMapping && block then
        (blockMembers? fuel ((b.goOn rest).meet 2)).map fun (members, b) =>
          (.mapping tag members, b)
      else if mayLack then some (.scalar { text := "", tag }, b.meet 1)
      else none
    | [] => if mayLack then some (.scalar { text := "", tag }, b.meet 1) else none

/-- The value that stands before one of the closing tokens, which may be left out. -/
def slot? : Nat → List Token → Bool → Bool → Builder → Option (Yaml × Builder)
  | 0, _, _, _, _ => none
  | fuel + 1, closing, block, underKey, b =>
    if b.nextIn closing then some b.leaveBlank else node? fuel block underKey b

/-- The items of a block list up to and with its end. -/
def blockItems? : Nat → Builder → Option (List Yaml × Builder)
  | 0, _ => none
  | fuel + 1, b =>
    match b.tokens with
    | .blockEntry :: rest =>
      match slot? fuel [.blockEntry, .blockEnd] true false (b.goOn rest) with
      | none => none
      | some (item, b) => (blockItems? fuel b).map fun (items, b) => (item :: items, b)
    | .blockEnd :: rest => some ([], b.goOn rest)
    | _ => none

/-- The items of a block list in the column of its key. -/
def entriesUnderKey? : Nat → Builder → Option (List Yaml × Builder)
  | 0, _ => none
  | fuel + 1, b =>
    match b.tokens with
    | .blockEntry :: rest =>
      match slot? fuel [.blockEntry, .key, .value, .blockEnd] true false (b.goOn rest) with
      | none => none
      | some (item, b) => (entriesUnderKey? fuel b).map fun (items, b) => (item :: items, b)
    | _ => some ([], b)

/-- The members of a block mapping up to and with its end. -/
def blockMembers? : Nat → Builder → Option (List (Yaml × Yaml) × Builder)
  | 0, _ => none
  | fuel + 1, b =>
    match b.tokens with
    | .key :: rest =>
      match slot? fuel [.key, .value, .blockEnd] true true (b.goOn rest) with
      | none => none
      | some (key, b) =>
        match value? fuel [.key, .value, .blockEnd] true b with
        | none => none
        | some (tree, b) =>
          (blockMembers? fuel b).map fun (members, b) => ((key, tree) :: members, b)
    | .blockEnd :: rest => some ([], b.goOn rest)
    | _ => none

/-- The value of a key, which may be left out together with its colon. -/
def value? : Nat → List Token → Bool → Builder → Option (Yaml × Builder)
  | 0, _, _, _ => none
  | fuel + 1, closing, block, b =>
    match b.tokens with
    | .value :: rest => slot? fuel closing block block (b.goOn rest)
    | _ => some b.leaveBlank

/-- The items of a flow list up to and with its end; `first` before the first of them. -/
def flowItems? : Nat → Bool → Builder → Option (List Yaml × Builder)
  | 0, _, _ => none
  | fuel + 1, first, b =>
    let body : Option (List Token) :=
      match b.tokens with
      | .flowListEnd :: rest => some (.flowListEnd :: rest)
      | .flowEntry :: rest => if first then some (.flowEntry :: rest) else some rest
      | tokens => if first then some tokens else none
    match body with
    | none => none
    | some (.flowListEnd :: rest) => some ([], b.goOn rest)
    | some tokens =>
      match flowItem? fuel (b.goOn tokens) with
      | none => none
      | some (item, b) => (flowItems? fuel false b).map fun (items, b) => (item :: items, b)

/-- An item of a flow list; a key makes it a mapping of one member. -/
def flowItem? : Nat → Builder → Option (Yaml × Builder)
  | 0, _ => none
  | fuel + 1, b =>
    match b.tokens with
    | .key :: rest =>
      let inside := (b.goOn rest).meet 2
      let key :=
        if inside.nextIn [.value, .flowEntry, .flowListEnd] then
          some (inside.goOn rest.tail).leaveBlank
        else node? fuel false false inside
      match key with
      | none => none
      | some (key, b) =>
        (value? fuel [.flowEntry, .flowListEnd] false b).map fun (tree, b) =>
          (.mapping none [(key, tree)], b)
    | _ => node? fuel false false b

/-- The members of a flow mapping up to and with its end; `first` before the first of
them. -/
def flowMembers? : Nat → Bool → Builder → Option (List (Yaml × Yaml) × Builder)
  | 0, _, _ => none
  | fuel + 1, first, b =>
    let body : Option (List Token) :=
      match b.tokens with
      | .flowMappingEnd :: rest => some (.flowMappingEnd :: rest)
      | .flowEntry :: rest => if first then some (.flowEntry :: rest) else some rest
      | tokens => if first then some tokens else none
    match body with
    | none => none
    | some (.flowMappingEnd :: rest) => some ([], b.goOn rest)
    | some tokens =>
      match flowMember? fuel (b.goOn tokens) with
      | none => none
      | some (member, b) =>
        (flowMembers? fuel false b).map fun (members, b) => (member :: members, b)

/-- A member of a flow mapping; without a key mark it has no value. -/
def flowMember? : Nat → Builder → Option ((Yaml × Yaml) × Builder)
  | 0, _ => none
  | fuel + 1, b =>
    match b.tokens with
    | .key :: rest =>
      match slot? fuel [.value, .flowEntry, .flowMappingEnd] false false (b.goOn rest) with
      | none => none
      | some (key, b) =>
        (value? fuel [.flowEntry, .flowMappingEnd] false b).map fun (tree, b) => ((key, tree), b)
    | _ =>
      (node? fuel false false b).map fun (key, b) =>
        let (tree, b) := b.leaveBlank
        ((key, tree), b)

end

/-- What the directives before a document say. -/
structure Directives where
  versioned : Bool := false
  handles : List (String × String) := []

/-- Read the directives up to the mark of a document. A version may be given once, a
handle too, and the version must be known. -/
def Directives.read? (d : Directives) : List Token → Option (Directives × List Token)
  | .version major minor :: rest =>
    if !d.versioned && major == 1 && (minor == 1 || minor == 2) then
      Directives.read? { d with versioned := true } rest
    else none
  | .handle handle start :: rest =>
    if (d.handles.lookup handle).isSome then none
    else Directives.read? { d with handles := (handle, start) :: d.handles } rest
  | .documentStart :: rest => some (d, rest)
  | _ => none

/-- Whether a token stands where a document without content ends. -/
def endsDocument : List Token → Bool
  | [] => true
  | .version _ _ :: _ => true
  | .handle _ _ :: _ => true
  | token :: _ => token == .documentStart || token == .documentEnd

/-- Whether a directive or mark begins a document. -/
def isMarked : List Token → Bool
  | .version _ _ :: _ => true
  | .handle _ _ :: _ => true
  | .documentStart :: _ => true
  | _ => false

/-- The value of the first document and the tokens after it. Aliases may be followed a
hundred times as often as there are values. -/
def document? (tokens : List Token) : Option (Yaml × List Token) :=
  let fuel := 8 * tokens.length + 8
  let built :=
    if isMarked tokens then
      (Directives.read? {} tokens).bind fun (d, rest) =>
        let b : Builder := { tokens := rest, handles := d.handles }
        if endsDocument rest then some b.leaveBlank else node? fuel true false b
    else node? fuel true false { tokens }
  built.bind fun (tree, b) => if 100 * b.met < b.follows then none else some (tree, b.tokens)

/-- How many lists and mappings may be nested. -/
def deepest : Nat := 128

/-- The value of a text that is one document. -/
def parse? (s : String) : Option Yaml :=
  match tokens? s.toList with
  | none => none
  | some [] => some .void
  | some tokens =>
    match document? tokens with
    | some (tree, rest) => if rest.all (· == .documentEnd) then some (tree.within deepest) else none
    | none => none

end VmLaunch.Yaml
