import VmLaunch.Url.Address

/-!
# Characters of literals

A text that is read as an address is made of hexadecimal digits, colons and dots. A path has a
separator and so is never taken for one.
-/

namespace VmLaunch

/-- Every other character than the separator stands in one of the pieces. -/
theorem Text.exists_piece {sep c : Char} {cs : List Char} (other : c ≠ sep) (member : c ∈ cs) :
    ∃ piece ∈ splitOn sep cs, c ∈ piece := by
  induction cs with
  | nil => cases member
  | cons first rest inductionHypothesis =>
    unfold splitOn
    by_cases cut : first = sep
    · rw [if_pos cut]
      have later : c ∈ rest := (List.mem_cons.mp member).resolve_left (cut ▸ other)
      obtain ⟨piece, among, within⟩ := inductionHypothesis later
      exact ⟨piece, List.mem_cons_of_mem _ among, within⟩
    · rw [if_neg cut]
      cases split : splitOn sep rest with
      | nil =>
        rw [split] at inductionHypothesis
        rcases List.mem_cons.mp member with rfl | later
        · exact ⟨[c], List.mem_singleton_self _, List.mem_singleton_self _⟩
        · obtain ⟨_, among, _⟩ := inductionHypothesis later
          cases among
      | cons head pieces =>
        rw [split] at inductionHypothesis
        rcases List.mem_cons.mp member with rfl | later
        · exact ⟨c :: head, List.mem_cons_self, List.mem_cons_self⟩
        obtain ⟨piece, among, within⟩ := inductionHypothesis later
        rcases List.mem_cons.mp among with rfl | behind
        · exact ⟨first :: piece, List.mem_cons_self, List.mem_cons_of_mem _ within⟩
        · exact ⟨piece, List.mem_cons_of_mem _ behind, within⟩

namespace Address

/-- The characters that a literal is made of. -/
def isLiteralChar (c : Char) : Bool :=
  (Written.hexValue? c).isSome || c == ':' || c == '.'

/-- Characters of a literal only. -/
def Lettered (cs : List Char) : Prop :=
  ∀ c ∈ cs, isLiteralChar c = true

/-- Pieces of literal characters make a text of them, if the separator is one. -/
theorem lettered_of_pieces {sep : Char} {cs : List Char} (mark : isLiteralChar sep = true)
    (each : ∀ piece ∈ Text.splitOn sep cs, Lettered piece) : Lettered cs := by
  intro c member
  by_cases same : c = sep
  · rw [same, mark]
  · obtain ⟨piece, among, within⟩ := Text.exists_piece same member
    exact each piece among c within

/-- Where every piece that can be read has literal characters, all pieces that were read have. -/
theorem lettered_of_mapM {α : Type} {read : List Char → Option α}
    (each : ∀ piece value, read piece = some value → Lettered piece)
    {pieces : List (List Char)} {values : List α} (all : pieces.mapM read = some values) :
    ∀ piece ∈ pieces, Lettered piece := by
  induction pieces generalizing values with
  | nil => simp
  | cons first rest inductionHypothesis =>
    rw [List.mapM_cons] at all
    obtain ⟨value, head, tail⟩ := Option.bind_eq_some_iff.mp all
    obtain ⟨others, later, -⟩ := Option.bind_eq_some_iff.mp tail
    exact List.forall_mem_cons.mpr ⟨each first value head, inductionHypothesis later⟩

/-- A digit may stand in a literal. -/
theorem isLiteralChar_of_isDigit {c : Char} (digit : Binary64.isDigit c = true) :
    isLiteralChar c = true := by
  have within : ('0' ≤ c && c ≤ '9') = true := digit
  unfold isLiteralChar Written.hexValue?
  rw [if_pos within]
  rfl

/-- An octet has literal characters. -/
theorem lettered_of_octet? {cs : List Char} {value : Nat} (read : octet? cs = some value) :
    Lettered cs := by
  unfold octet? at read
  split at read
  case h_1 => cases read
  case h_2 =>
    intro c member
    rw [List.mem_singleton.mp member]
    decide
  case h_3 first rest _ =>
    split at read
    case isFalse => cases read
    case isTrue fits =>
      simp only [Bool.and_eq_true, List.all_eq_true] at fits
      exact fun c member => isLiteralChar_of_isDigit (fits.1.1.2 c member)

/-- An address of four octets has literal characters. -/
theorem lettered_of_v4? {cs : List Char} {octets : List Nat} (read : v4? cs = some octets) :
    Lettered cs := by
  unfold v4? at read
  split at read
  case h_1 all =>
    exact lettered_of_pieces (by decide) (lettered_of_mapM (fun _ _ => lettered_of_octet?) all)
  case h_2 => cases read

/-- A hexadecimal number has literal characters. -/
theorem lettered_of_hexValue? {cs : List Char} {value : Nat} (read : hexValue? cs = some value) :
    Lettered cs := by
  unfold hexValue? at read
  generalize 0 = start at read
  induction cs generalizing start with
  | nil => exact fun _ => nofun
  | cons first rest inductionHypothesis =>
    rw [List.foldlM_cons] at read
    obtain ⟨next, head, tail⟩ := Option.bind_eq_some_iff.mp read
    obtain ⟨digit, valued, -⟩ := Option.map_eq_some_iff.mp head
    refine List.forall_mem_cons.mpr ⟨?_, inductionHypothesis next tail⟩
    simp [isLiteralChar, valued]

/-- A group of an address has literal characters. -/
theorem lettered_of_group? {cs : List Char} {value : Nat} (read : group? cs = some value) :
    Lettered cs := by
  unfold group? at read
  split at read
  · cases read
  · exact lettered_of_hexValue? read

/-- The groups of an address have literal characters. -/
theorem lettered_of_groups? {pieces : List (List Char)} {values : List Nat}
    (read : groups? pieces = some values) : ∀ piece ∈ pieces, Lettered piece := by
  induction pieces generalizing values with
  | nil => simp
  | cons first rest inductionHypothesis =>
    cases rest with
    | nil =>
      have lettered : Lettered first := by
        unfold groups? at read
        split at read
        case h_1 octets => exact lettered_of_v4? octets
        case h_2 =>
          obtain ⟨value, group, -⟩ := Option.map_eq_some_iff.mp read
          exact lettered_of_group? group
      simpa using lettered
    | cons next others =>
      unfold groups? at read
      split at read
      case h_1 head tail =>
        exact List.forall_mem_cons.mpr ⟨lettered_of_group? head, inductionHypothesis tail⟩
      case h_2 => cases read

/-- What is cut at a double colon has it in the middle. -/
theorem eq_append_of_cutDouble? {cs head tail : List Char}
    (cut : cutDouble? cs = some (head, tail)) : cs = head ++ ':' :: ':' :: tail := by
  fun_induction cutDouble? cs generalizing head with
  | case1 rest =>
    cases cut
    rfl
  | case2 c rest _ inductionHypothesis =>
    obtain ⟨⟨before, after⟩, deeper, same⟩ := Option.map_eq_some_iff.mp cut
    cases same
    rw [inductionHypothesis deeper]
    rfl
  | case3 => cases cut

/-- Pieces between colons make a text of literal characters. -/
theorem lettered_of_colonPieces {cs : List Char}
    (each : ∀ piece ∈ colonPieces cs, Lettered piece) : Lettered cs := by
  unfold colonPieces at each
  cases cs with
  | nil => exact fun _ => nofun
  | cons first rest => exact lettered_of_pieces (by decide) each

/-- An address of groups has literal characters. -/
theorem lettered_of_v6? {cs : List Char} {groups : List Nat} (read : v6? cs = some groups) :
    Lettered cs := by
  unfold v6? at read
  split at read
  case h_1 head tail cut =>
    split at read
    case h_2 => cases read
    case h_1 before after =>
      have groups := lettered_of_mapM (fun _ _ => lettered_of_group?) before
      have first := lettered_of_colonPieces groups
      have last := lettered_of_colonPieces (lettered_of_groups? after)
      rw [eq_append_of_cutDouble? cut]
      refine List.forall_mem_append.mpr ⟨first, ?_⟩
      exact List.forall_mem_cons.mpr ⟨by decide, List.forall_mem_cons.mpr ⟨by decide, last⟩⟩
  case h_2 =>
    split at read
    case h_1 all => exact lettered_of_colonPieces (lettered_of_groups? all)
    case h_2 => cases read

/-- A literal has literal characters. -/
theorem lettered_of_isLiteral {s : String} (literal : isLiteral s = true) :
    Lettered s.toList := by
  unfold isLiteral at literal
  rcases Bool.or_eq_true_iff.mp literal with four | six
  · obtain ⟨octets, read⟩ := Option.isSome_iff_exists.mp four
    exact lettered_of_v4? read
  · obtain ⟨groups, read⟩ := Option.isSome_iff_exists.mp six
    exact lettered_of_v6? read

/-- A path is no literal. -/
theorem not_isLiteral_of_mem {s : String} (separated : '/' ∈ s.toList) : ¬ isLiteral s := by
  intro literal
  exact absurd (lettered_of_isLiteral literal '/' separated) (by decide)

end Address

end VmLaunch
