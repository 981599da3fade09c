import Mathlib.Data.List.Infix

/-!
# Splitting a text

The parts of a text between the separators, and the text put together from its
parts. A text is split into parts in exactly one way (`split_eq_iff`), and always
into at least one.
-/

namespace Text

/-- The parts between the separators; a text without one is a single part. -/
def split (sep : Char) (s : String) : List String :=
  (s.toList.splitOn sep).map String.ofList

/-- The parts with separators in between. -/
def join (sep : Char) (parts : List String) : String :=
  String.ofList ([sep].intercalate (parts.map String.toList))

theorem split_ne_nil (sep : Char) (s : String) : split sep s ≠ [] := by
  simp [split, List.splitOn_ne_nil]

theorem join_split (sep : Char) (s : String) : join sep (split sep s) = s := by
  have hparts : (split sep s).map String.toList = s.toList.splitOn sep := by
    simp [split, Function.comp_def]
  rw [join, hparts, List.intercalate_splitOn, String.ofList_toList]

theorem split_join {sep : Char} {parts : List String} (hne : parts ≠ [])
    (hparts : ∀ part ∈ parts, sep ∉ part.toList) : split sep (join sep parts) = parts := by
  have hsep : ∀ l ∈ parts.map String.toList, sep ∉ l := by
    intro l hl
    obtain ⟨part, hpart, rfl⟩ := List.mem_map.mp hl
    exact hparts part hpart
  rw [split, join, String.toList_ofList, List.splitOn_intercalate sep hsep (by simpa using hne)]
  simp [Function.comp_def]

theorem notMem_of_mem_splitOn {α : Type} [BEq α] [LawfulBEq α] {sep : α} (l : List α) :
    ∀ part ∈ l.splitOn sep, sep ∉ part := by
  induction l with
  | nil => simp
  | cons a l ih =>
      intro part hpart
      rw [List.splitOn, List.splitOnP_cons_eq_if_modifyHead, ← List.splitOn] at hpart
      obtain ⟨first, rest, hsplit⟩ := List.exists_cons_of_ne_nil (List.splitOn_ne_nil sep l)
      rw [hsplit] at hpart ih
      split at hpart
      case isTrue =>
        rcases List.mem_cons.mp hpart with rfl | hpart
        · simp
        · exact ih part hpart
      case isFalse hne =>
        rcases List.mem_cons.mp hpart with rfl | hpart
        · have hfirst := ih first List.mem_cons_self
          exact fun hmem => (List.mem_cons.mp hmem).elim (fun heq => hne (by simp [heq])) hfirst
        · exact ih part (List.mem_cons_of_mem _ hpart)

theorem notMem_of_mem_split {sep : Char} {s part : String} (hpart : part ∈ split sep s) :
    sep ∉ part.toList := by
  obtain ⟨l, hl, rfl⟩ := List.mem_map.mp hpart
  rw [String.toList_ofList]
  exact notMem_of_mem_splitOn _ l hl

theorem one_lt_length_splitOn {α : Type} [BEq α] [LawfulBEq α] {sep : α} {l : List α}
    (hsep : sep ∈ l) : 1 < (l.splitOn sep).length := by
  obtain ⟨first, rest, hsplit⟩ := List.exists_cons_of_ne_nil (List.splitOn_ne_nil sep l)
  cases rest with
  | cons second rest => simp [hsplit]
  | nil =>
      have hjoin : [sep].intercalate (l.splitOn sep) = l := List.intercalate_splitOn sep
      rw [hsplit, List.intercalate_singleton] at hjoin
      have hfirst : first ∈ l.splitOn sep := by simp [hsplit]
      exact absurd (hjoin ▸ hsep) (notMem_of_mem_splitOn l first hfirst)

/-- The parts are those the text can be put together from. -/
theorem split_eq_iff (sep : Char) (s : String) (parts : List String) :
    split sep s = parts ↔
      parts ≠ [] ∧ (∀ part ∈ parts, sep ∉ part.toList) ∧ s = join sep parts := by
  constructor
  · rintro rfl
    exact ⟨split_ne_nil sep s, fun _ hpart => notMem_of_mem_split hpart, (join_split sep s).symm⟩
  · rintro ⟨hne, hparts, rfl⟩
    exact split_join hne hparts

/-! ## A bounded number of parts -/

/-- At most so many parts, the last with the separators that are left. -/
def splitNChars (sep : Char) : Nat → List Char → List (List Char)
  | 0, _ => []
  | 1, l => [l]
  | n + 2, l =>
      match l.dropWhile (· ≠ sep) with
      | [] => [l]
      | _ :: rest => l.takeWhile (· ≠ sep) :: splitNChars sep (n + 1) rest

@[inherit_doc splitNChars]
def splitN (sep : Char) (n : Nat) (s : String) : List String :=
  (splitNChars sep n s.toList).map String.ofList

theorem splitNChars_cons {sep : Char} {part : List Char} (hpart : sep ∉ part) (n : Nat)
    (rest : List Char) :
    splitNChars sep (n + 2) (part ++ sep :: rest) = part :: splitNChars sep (n + 1) rest := by
  have hne : ∀ c ∈ part, (decide (c ≠ sep)) = true := by
    intro c hc
    exact decide_eq_true fun heq => hpart (heq ▸ hc)
  simp only [splitNChars]
  rw [List.dropWhile_append_of_pos hne, List.takeWhile_append_of_pos hne]
  simp

/-- The first part ends at the first separator. -/
theorem splitN_cons {sep : Char} {part : String} (hpart : sep ∉ part.toList) (n : Nat)
    (rest : String) :
    splitN sep (n + 2) (part ++ String.singleton sep ++ rest) =
      part :: splitN sep (n + 1) rest := by
  have htext : (part ++ String.singleton sep ++ rest).toList =
      part.toList ++ sep :: rest.toList := by
    simp
  rw [splitN, htext, splitNChars_cons hpart]
  simp [splitN]

theorem splitN_one (sep : Char) (s : String) : splitN sep 1 s = [s] := by
  simp [splitN, splitNChars]

/-! ## A text as the separator -/

/-- The parts between the occurrences of `sep`, found from the left; `skip` characters of an
occurrence are still to be passed. -/
def splitSeq (sep : List Char) : Nat → List Char → List (List Char)
  | _, [] => [[]]
  | skip + 1, _ :: rest => splitSeq sep skip rest
  | 0, c :: rest =>
      if sep <+: c :: rest then [] :: splitSeq sep (sep.length - 1) rest
      else (splitSeq sep 0 rest).modifyHead (c :: ·)

/-- The parts between the occurrences of a non-empty text. -/
def splitAt (sep s : String) : List String :=
  (splitSeq sep.toList 0 s.toList).map String.ofList

/-- The text occurs in the other one. -/
def contains (s sub : String) : Bool := sub.toList <:+: s.toList

theorem length_splitSeq_pos (sep : List Char) (skip : Nat) (l : List Char) :
    0 < (splitSeq sep skip l).length := by
  fun_induction splitSeq sep skip l with
  | case1 => simp
  | case2 skip c rest ih => exact ih
  | case3 c rest hsep ih => simp
  | case4 c rest hsep ih => simpa using ih

/-- There is a second part exactly if the separator occurs. -/
theorem one_lt_length_splitSeq {sep : List Char} (hsep : sep ≠ []) (l : List Char) :
    1 < (splitSeq sep 0 l).length ↔ sep <:+: l := by
  induction l with
  | nil => simp [splitSeq, hsep]
  | cons c rest ih =>
      rw [List.infix_cons_iff, splitSeq]
      by_cases hhere : sep <+: c :: rest
      · have hrest := length_splitSeq_pos sep (sep.length - 1) rest
        simp [hhere, hrest]
      · simp [hhere, ih]

theorem one_lt_length_splitAt {sep : String} (hsep : sep ≠ "") (s : String) :
    1 < (splitAt sep s).length ↔ contains s sep = true := by
  have hne : sep.toList ≠ [] := by simpa using hsep
  simp [splitAt, contains, one_lt_length_splitSeq hne]

/-- Without a separator there is one part. -/
theorem splitN_two_of_notMem {sep : Char} {s : String} (hsep : sep ∉ s.toList) :
    splitN sep 2 s = [s] := by
  have hall : s.toList.dropWhile (· ≠ sep) = [] := by
    rw [← List.append_nil s.toList, List.dropWhile_append_of_pos, List.dropWhile_nil]
    intro c hc
    exact decide_eq_true fun heq => hsep (heq ▸ hc)
  simp only [splitN, splitNChars, hall, List.map_cons, List.map_nil, String.ofList_toList]

theorem exists_splitN_two {sep : Char} {s : String} (hsep : sep ∈ s.toList) :
    ∃ part rest, splitN sep 2 s = [part, rest] := by
  obtain ⟨part, rest, hs, hpart⟩ := List.eq_append_cons_of_mem hsep
  have hsplit : splitNChars sep 2 (part ++ sep :: rest) = [part, rest] :=
    splitNChars_cons hpart 0 rest
  exact ⟨String.ofList part, String.ofList rest, by rw [splitN, hs, hsplit]; rfl⟩

end Text
