import Mathlib.Data.List.TakeWhile
import Mathlib.Data.String.Basic

/-!
# Reports that can be read back

A printer tells something of what it prints if the beginning of a text that it may have
printed fixes it, and fixes where the rest of the text begins (`Tells`). Printers made of
lines do: each line tells the text in it, one printer after the other tells what both
tell, and a repeated one tells the whole list.
-/

namespace Text

variable {α β γ : Type}

/-- From the values that satisfy `ok`, the printed text tells `f`, and where it ends. -/
def Tells (ok : α → Prop) (print : α → String) (f : α → β) : Prop :=
  ∀ a b, ok a → ok b → ∀ rest rest', print a ++ rest = print b ++ rest' → f a = f b ∧ rest = rest'

/-- Two lists are the same up to the first separator. -/
theorem append_cons_inj {sep : α} {s t rest rest' : List α} (hs : sep ∉ s) (ht : sep ∉ t)
    (heq : s ++ sep :: rest = t ++ sep :: rest') : s = t ∧ rest = rest' := by
  rcases List.append_eq_append_iff.mp heq with ⟨more, hmore, hsplit⟩ | ⟨more, hmore, hsplit⟩
  · cases more with
    | nil => exact ⟨by simpa using hmore.symm, by simpa using hsplit⟩
    | cons c more =>
        obtain ⟨rfl, -⟩ := List.cons_eq_cons.mp hsplit
        exact absurd (by simp [hmore]) ht
  · cases more with
    | nil => exact ⟨by simpa using hmore, by simpa using hsplit.symm⟩
    | cons c more =>
        obtain ⟨rfl, -⟩ := List.cons_eq_cons.mp hsplit
        exact absurd (by simp [hmore]) hs

/-- Lines can be told apart. -/
theorem line_inj {s t rest rest' : String} (hs : '\n' ∉ s.toList) (ht : '\n' ∉ t.toList)
    (heq : s ++ "\n" ++ rest = t ++ "\n" ++ rest') : s = t ∧ rest = rest' := by
  have hlists : s.toList ++ '\n' :: rest.toList = t.toList ++ '\n' :: rest'.toList := by
    simpa using congrArg String.toList heq
  obtain ⟨hline, hrest⟩ := append_cons_inj hs ht hlists
  exact ⟨String.toList_injective hline, String.toList_injective hrest⟩

namespace Tells

variable {ok : α → Prop} {print print' : α → String} {f : α → β} {g : α → γ}

/-- A line tells its text. -/
theorem line (label : String) {text : α → String} (htext : ∀ a, ok a → '\n' ∉ (text a).toList) :
    Tells ok (fun a => label ++ text a ++ "\n") text := by
  intro a b ha hb rest rest' heq
  have hlines : text a ++ "\n" ++ rest = text b ++ "\n" ++ rest' := by
    simpa [String.append_assoc] using heq
  exact line_inj (htext a ha) (htext b hb) hlines

/-- What is always printed tells nothing. -/
theorem always (s : String) : Tells ok (fun _ => s) fun _ => () := by
  intro a b _ _ rest rest' heq
  exact ⟨rfl, by simpa using heq⟩

theorem append (hf : Tells ok print f) (hg : Tells ok print' g) :
    Tells ok (fun a => print a ++ print' a) fun a => (f a, g a) := by
  intro a b ha hb rest rest' heq
  simp only [String.append_assoc] at heq
  obtain ⟨hfirst, hlater⟩ := hf a b ha hb _ _ heq
  obtain ⟨hsecond, hrest⟩ := hg a b ha hb _ _ hlater
  exact ⟨Prod.ext hfirst hsecond, hrest⟩

/-- A part of a value is told as the part itself is. -/
theorem comap {ok : β → Prop} {print : β → String} {f : β → γ} (hf : Tells ok print f)
    (part : α → β) :
    Tells (fun a => ok (part a)) (fun a => print (part a)) fun a => f (part a) :=
  fun a b ha hb rest rest' heq => hf (part a) (part b) ha hb rest rest' heq

theorem mono {ok' : α → Prop} (hf : Tells ok print f) (hok : ∀ a, ok' a → ok a) :
    Tells ok' print f :=
  fun a b ha hb => hf a b (hok a ha) (hok b hb)

theorem congr (hf : Tells ok print f) (hprint : ∀ a, ok a → print' a = print a) :
    Tells ok print' f := by
  intro a b ha hb rest rest' heq
  rw [hprint a ha, hprint b hb] at heq
  exact hf a b ha hb rest rest' heq

/-- What follows from something told is told. -/
theorem imp (hf : Tells ok print f) (hfg : ∀ a b, ok a → ok b → f a = f b → g a = g b) :
    Tells ok print g := by
  intro a b ha hb rest rest' heq
  obtain ⟨hsame, hrest⟩ := hf a b ha hb rest rest' heq
  exact ⟨hfg a b ha hb hsame, hrest⟩

/-- To the end of the text, repeated printing tells the list. -/
theorem repeated (hprint : Tells ok print f) (hne : ∀ a, print a ≠ "") :
    ∀ l l' : List α, (∀ a ∈ l, ok a) → (∀ a ∈ l', ok a) →
      String.join (l.map print) = String.join (l'.map print) → l.map f = l'.map f := by
  intro l
  induction l with
  | nil =>
      intro l' _ _ heq
      cases l' with
      | nil => rfl
      | cons b l' =>
          have hempty : print b ++ String.join (l'.map print) = "" := by simpa using heq.symm
          exact absurd (String.append_eq_empty_iff.mp hempty).1 (hne b)
  | cons a l ih =>
      intro l' hl hl' heq
      cases l' with
      | nil =>
          have hempty : print a ++ String.join (l.map print) = "" := by simpa using heq
          exact absurd (String.append_eq_empty_iff.mp hempty).1 (hne a)
      | cons b l' =>
          obtain ⟨ha, hl⟩ := List.forall_mem_cons.mp hl
          obtain ⟨hb, hl'⟩ := List.forall_mem_cons.mp hl'
          simp only [List.map_cons, String.join_cons] at heq ⊢
          obtain ⟨hhead, hrest⟩ := hprint a b ha hb _ _ heq
          rw [hhead, ih l' hl hl' hrest]

end Tells

end Text
