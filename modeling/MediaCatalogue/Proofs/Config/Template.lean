import Mathlib
import MediaCatalogue.Config.File
import MediaCatalogue.Config.Template
import MediaCatalogue.Proofs.Toml.Document

/-! Configuration files that consist of comments. They say nothing, and the files that a user starts from
are such files. -/

namespace MediaCatalogue

open Toml (Comment Document)

def ConfigFile.silent : ConfigFile := { root := none, settings := none, search := none, output := none }

namespace Config.Template

theorem document_comments {lines : List String} (h : ∀ l ∈ lines, Comment l.toList) :
    Document [] (String.join (lines.map (· ++ "\n"))).toList := by
  induction lines with
  | nil => exact .nil
  | cons line lines ih =>
    obtain ⟨hline, hlines⟩ := List.forall_mem_cons.mp h
    have hcons : (String.join ((line :: lines).map (· ++ "\n"))).toList =
        line.toList ++ '\n' :: (String.join (lines.map (· ++ "\n"))).toList := by
      simp
    rw [hcons]
    exact (ih hlines).comment hline

/-- No comment starts with a mark of the byte order. -/
theorem head?_comments {lines : List String} (h : ∀ l ∈ lines, Comment l.toList) :
    (String.join (lines.map (· ++ "\n"))).toList.head? ≠ some '\uFEFF' := by
  cases lines with
  | nil => simp
  | cons line lines =>
    have hline := h line List.mem_cons_self
    rw [List.map_cons, String.join_cons, String.toList_append, String.toList_append]
    cases hline' : line.toList with
    | nil => simp
    | cons c cs =>
      rw [hline'] at hline
      cases hline with
      | hash plain => simp

theorem parse_comments {lines : List String} (h : ∀ l ∈ lines, Comment l.toList) :
    ConfigFile.parse (String.join (lines.map (· ++ "\n"))) = some .silent := by
  have hentries := (document_comments h).parse (Nat.zero_le _) (head?_comments h)
  rw [ConfigFile.parse, hentries]
  rfl

/-- What is turned into a comment is one, unless it holds a control character. -/
theorem comment_isComment {line : String} (h : ∀ c ∈ line.toList, Toml.isPlain c = true) :
    Comment (comment line).toList := by
  unfold comment
  split
  · next hnil =>
    rw [hnil]
    exact .empty
  · next cs hcs =>
    rw [hcs] at h ⊢
    exact .hash (List.forall_mem_cons.mp h).2
  · rw [String.toList_append]
    refine .hash ?_
    rintro c (_ | ⟨_, hc⟩)
    · rfl
    · exact h c hc

theorem lines_comments (isGlobal : Bool) : ∀ l ∈ lines isGlobal, Comment l.toList := by
  have hplain : ∀ l ∈ localLines ++ globalLines, l.toList.all Toml.isPlain = true := by decide +kernel
  intro l hl
  obtain ⟨line, hline, rfl⟩ := List.mem_map.mp hl
  refine comment_isComment (List.all_eq_true.mp (hplain line ?_))
  cases isGlobal with
  | true => exact List.mem_append_right _ hline
  | false => exact List.mem_append_left _ hline

/-- Neither template says anything. -/
theorem parse_text (isGlobal : Bool) : ConfigFile.parse (text isGlobal) = some .silent :=
  parse_comments (lines_comments isGlobal)

end Config.Template

end MediaCatalogue
