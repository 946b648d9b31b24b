import AssetLink.Text.Placeholder
import Mathlib.Data.List.Infix

/-!
Text with every occurrence of a placeholder replaced. The occurrences are those
of the text as it was, so it does not matter what is put in their place; and if
nothing of that can begin or go on with a placeholder, none is left.
-/

namespace AssetLink.Text

variable {placeholder new text out : List Char}

/-- Occurrences are replaced one after the other, each time the leftmost of what is
left of the text, while all else stays. An occurrence is the leftmost if none ends
before it does. -/
inductive Replaced (placeholder new : List Char) : List Char → List Char → Prop
  | absent {text : List Char} (absent : ¬ placeholder <:+: text) :
      Replaced placeholder new text text
  | occurs {before after out : List Char}
      (leftmost : ¬ placeholder <:+: before ++ placeholder.dropLast)
      (others : Replaced placeholder new after out) :
      Replaced placeholder new (before ++ placeholder ++ after) (before ++ new ++ out)

theorem replaceAfter_eq_drop (skip : Nat) (text : List Char) :
    replaceAfter placeholder new skip text = replaceAfter placeholder new 0 (text.drop skip) := by
  induction skip generalizing text with
  | zero => rfl
  | succ skip ih =>
      cases text with
      | nil => rfl
      | cons c rest => exact ih rest

theorem replaceAfter_of_absent (absent : ¬ placeholder <:+: text) :
    replaceAfter placeholder new 0 text = text := by
  induction text with
  | nil => rfl
  | cons c rest ih =>
      rw [List.infix_cons_iff, not_or] at absent
      rw [replaceAfter, if_neg (mt List.isPrefixOf_iff_prefix.1 absent.1), ih absent.2]

theorem prefix_dropLast_append (before placeholder after : List Char) :
    before ++ placeholder.dropLast <+: before ++ placeholder ++ after := by
  have short := List.dropLast_prefix placeholder
  exact ((List.prefix_append_right_inj before).2 short).trans (List.prefix_append _ after)

theorem replaceAfter_of_occurs (nonempty : placeholder ≠ []) {before : List Char}
    (leftmost : ¬ placeholder <:+: before ++ placeholder.dropLast) (after : List Char) :
    replaceAfter placeholder new 0 (before ++ placeholder ++ after) =
      before ++ new ++ replaceAfter placeholder new 0 after := by
  induction before with
  | nil =>
      obtain ⟨c, rest, rfl⟩ := List.exists_cons_of_ne_nil nonempty
      have here : (c :: rest).isPrefixOf (c :: (rest ++ after)) = true :=
        List.isPrefixOf_iff_prefix.2 (List.prefix_append (c :: rest) after)
      rw [List.nil_append, List.cons_append, replaceAfter, if_pos here, replaceAfter_eq_drop]
      simp
  | cons c before ih =>
      rw [List.cons_append, List.infix_cons_iff, not_or] at leftmost
      have notHere : ¬ placeholder <+: c :: (before ++ placeholder ++ after) := by
        -- It would end before the next one does, which is too early.
        intro here
        have long : placeholder.length ≤ (c :: (before ++ placeholder.dropLast)).length := by
          simp
          omega
        exact leftmost.1 (List.prefix_of_prefix_length_le here
          (prefix_dropLast_append (c :: before) placeholder after) long)
      rw [List.cons_append, List.cons_append, replaceAfter,
        if_neg (mt List.isPrefixOf_iff_prefix.1 notHere), ih leftmost.2]
      rfl

theorem exists_leftmost (nonempty : placeholder ≠ []) (occurs : placeholder <:+: text) :
    ∃ before after, text = before ++ placeholder ++ after ∧
      ¬ placeholder <:+: before ++ placeholder.dropLast := by
  induction text with
  | nil => exact absurd (List.infix_nil.1 occurs) nonempty
  | cons c rest ih =>
      by_cases here : placeholder <+: c :: rest
      · obtain ⟨after, split⟩ := here
        refine ⟨[], after, split.symm, fun inside => ?_⟩
        have short := inside.length_le
        have long := List.length_pos_of_ne_nil nonempty
        simp at short
        omega
      · have later := (List.infix_cons_iff.1 occurs).resolve_left here
        obtain ⟨before, after, rfl, leftmost⟩ := ih later
        refine ⟨c :: before, after, rfl, ?_⟩
        rw [List.cons_append, List.infix_cons_iff, not_or]
        exact ⟨fun early =>
          here (early.trans (prefix_dropLast_append (c :: before) placeholder after)), leftmost⟩

theorem replaced_replaceAfter (nonempty : placeholder ≠ []) (text : List Char) :
    Replaced placeholder new text (replaceAfter placeholder new 0 text) := by
  induction h : text.length using Nat.strong_induction_on generalizing text with
  | _ n ih =>
    by_cases occurs : placeholder <:+: text
    · obtain ⟨before, after, rfl, leftmost⟩ := exists_leftmost nonempty occurs
      rw [replaceAfter_of_occurs nonempty leftmost]
      have shorter : after.length < n := by
        have long := List.length_pos_of_ne_nil nonempty
        simp at h
        omega
      exact .occurs leftmost (ih after.length shorter after rfl)
    · rw [replaceAfter_of_absent occurs]
      exact .absent occurs

theorem replaced_iff (nonempty : placeholder ≠ []) :
    Replaced placeholder new text out ↔ out = replaceAfter placeholder new 0 text := by
  constructor
  · intro h
    induction h with
    | absent absent => exact (replaceAfter_of_absent absent).symm
    | occurs leftmost _ ih => rw [replaceAfter_of_occurs nonempty leftmost, ih]
  · rintro rfl
    exact replaced_replaceAfter nonempty text

section Straddling

variable {c g : Char} {rest xs ys : List Char}

theorem infix_or_infix_of_not_mem (absent : g ∉ placeholder)
    (occurs : placeholder <:+: xs ++ g :: ys) : placeholder <:+: xs ∨ placeholder <:+: ys := by
  induction xs with
  | nil =>
      rcases List.infix_cons_iff.1 occurs with here | later
      · cases placeholder with
        | nil => exact .inl List.nil_infix
        | cons d rest =>
            rw [(List.cons_prefix_cons.1 here).1] at absent
            exact absurd List.mem_cons_self absent
      · exact .inr later
  | cons x xs ih =>
      rcases List.infix_cons_iff.1 occurs with here | later
      · refine .inl (List.IsPrefix.isInfix ?_)
        rcases List.prefix_or_prefix_of_prefix here (List.prefix_append (x :: xs) (g :: ys)) with
          within | beyond
        · exact within
        · obtain ⟨more, rfl⟩ := beyond
          have ahead : more <+: g :: ys := (List.prefix_append_right_inj (x :: xs)).1 here
          cases more with
          | nil => rw [List.append_nil]
          | cons d more =>
              rw [(List.cons_prefix_cons.1 ahead).1] at absent
              exact absurd (List.mem_append_right _ List.mem_cons_self) absent
      · exact (ih later).imp_left List.infix_cons

theorem infix_of_not_mem (absent : c ∉ xs) (occurs : c :: rest <:+: xs ++ ys) :
    c :: rest <:+: ys := by
  induction xs with
  | nil => exact occurs
  | cons x xs ih =>
      rw [List.mem_cons, not_or] at absent
      rcases List.infix_cons_iff.1 occurs with here | later
      · exact absurd (List.cons_prefix_cons.1 here).1 absent.1
      · exact ih absent.2 later

/-- If what is put in opens with a character that no placeholder holds, and lacks the
one that placeholders begin with, no placeholder comes about. -/
theorem Replaced.not_infix {tail : List Char} (guard : g ∉ c :: rest) (lacks : c ∉ g :: tail)
    (h : Replaced (c :: rest) (g :: tail) text out) : ¬ c :: rest <:+: out := by
  induction h with
  | absent absent => exact absent
  | @occurs before after out leftmost _ ih =>
      intro occurs
      rw [List.append_assoc, List.cons_append] at occurs
      rcases infix_or_infix_of_not_mem guard occurs with inFront | behind
      · exact leftmost (inFront.trans (List.prefix_append before _).isInfix)
      · exact ih (infix_of_not_mem (mt (List.mem_cons_of_mem g) lacks) behind)

end Straddling

end AssetLink.Text
