import Mathlib.Data.List.Induction
import CommandScript.Proofs.Script.Outline
import CommandScript.Proofs.Template.Tags

/-!
# Hygiene of bodies with placeholders

The texts that are put in for placeholders are never read as anything but texts. Where each text of
a body before a placeholder ends cleanly, the body is read in the same way whatever is put in: it is
malformed, or it has the same calls with as many arguments, at every depth.

## Main definitions

- `CommandScript.Template.Pattern.marks` — the marks of a body with placeholders
- `CommandScript.Template.Pattern.Clean` — bodies in which texts before placeholders end cleanly

## Main results

- `CommandScript.Script.EndsCleanly.foldl_opens` — no head goes on after what ends cleanly
- `CommandScript.Template.Pattern.glyphs_filled` — a body is read mark by mark
- `CommandScript.Evaluation.substitution_hygienic` — bodies are read in the same way
-/

namespace CommandScript

namespace Script

section Opening

variable {value : List Char → List Char} {opened : Bool} {gs : List Glyph} {ms : List Mark}

theorem fill_map_glyph (gs : List Glyph) : fill value (gs.map .glyph) = gs := by
  induction gs with
  | nil => rfl
  | cons g gs ih =>
    rw [List.map_cons, fill_cons, ih]
    rfl

/-- Where a head may go on after glyphs, they end in a dollar sign and a part of a name. -/
theorem exists_of_foldl_opens (h : gs.foldl Glyph.opens false = true) :
    ∃ (before : List Glyph) (name : List Char),
      gs = before ++ .plain '$' :: name.map .plain ∧ name.all isNameChar = true := by
  -- Only the last glyphs count, so they are taken away one by one from the end.
  induction gs using List.reverseRecOn with
  | nil => cases h
  | append_singleton gs g ih =>
    rw [List.foldl_append] at h
    cases g with
    | escaped c => cases h
    | plain c =>
      by_cases dollar : c = '$'
      · exact ⟨gs, [], by rw [dollar]; rfl, rfl⟩
      · have both : gs.foldl Glyph.opens false = true ∧ isNameChar c = true := by
          simpa [Glyph.opens, dollar] using h
        obtain ⟨before, name, eq, all⟩ := ih both.1
        refine ⟨before, name ++ [c], ?_, ?_⟩
        · rw [eq, List.map_append, List.append_assoc, List.cons_append]
          rfl
        · rw [List.all_append, all, List.all_cons, both.2]
          rfl

/-- No head goes on after glyphs that end cleanly. -/
theorem EndsCleanly.foldl_opens (h : EndsCleanly gs) : gs.foldl Glyph.opens false = false := by
  refine Bool.eq_false_iff.2 fun opened => ?_
  obtain ⟨before, name, eq, all⟩ := exists_of_foldl_opens opened
  rw [h.2 before name eq] at all
  cases all

theorem guarded_append (h : Guarded (gs.foldl Glyph.opens opened) ms) :
    Guarded opened (gs.map .glyph ++ ms) := by
  induction gs generalizing opened with
  | nil => exact h
  | cons g gs ih => exact ih h

end Opening

end Script

namespace Template.Pattern

open Script

/-- The marks of a body with placeholders. -/
def marks : Pattern → List Mark
  | .last text => (glyphs text).map .glyph
  | .place text name rest => (glyphs text).map .glyph ++ .place name :: rest.marks

/-- Each text before a placeholder ends cleanly. -/
def Clean : Pattern → Prop
  | .last _ => True
  | .place text _ rest => EndsCleanly (glyphs text) ∧ rest.Clean

variable {pattern : Pattern}

theorem guarded (clean : pattern.Clean) : Guarded false pattern.marks := by
  induction pattern with
  | last text =>
    rw [marks, ← List.append_nil (List.map _ _)]
    exact guarded_append trivial
  | place text name rest ih =>
    rw [marks]
    refine guarded_append ?_
    rw [clean.1.foldl_opens]
    exact ⟨rfl, ih clean.2⟩

/-- A body with texts put in is read mark by mark. -/
theorem glyphs_filled (clean : pattern.Clean) (value : List Char → List Char) :
    glyphs (pattern.filled value) = fill value pattern.marks := by
  induction pattern with
  | last text => exact (fill_map_glyph _).symm
  | place text name rest ih =>
    rw [filled, marks, glyphs_append _ clean.1.1, glyphs_append _ (getLast?_glyphs_escape _),
      ih clean.2, fill_append, fill_map_glyph]
    rfl

end Template.Pattern

namespace Evaluation

open Script Template

/-- **Bodies are read in the same way whatever is put in.** A function puts the texts of its
arguments in, and what comes of that is malformed whatever they are, or it is read as one outline of
the body says: it has the same calls with as many arguments, at every depth, and its literal texts
stand for the texts of the body with those of the arguments in place of the placeholders. -/
theorem substitution_hygienic (scope : Scope) {code : String} (params : List String)
    {pattern : Pattern} (only : parse code.toList = .ok pattern.nodes)
    (named : ['.'] ∉ pattern.names) (clean : pattern.Clean) :
    (∀ texts, body scope (.text code) (params.map .text) texts =
      pure (.ok (pattern.filled (insertion params texts)))) ∧
    ((∀ texts line, ∃ e,
      Script.segments (pattern.filled (insertion params texts)) line = .error e) ∨
    ∃ outline : Outline, outline.marks = pattern.marks ∧ ∀ texts line, ∃ parts,
      Script.segments (pattern.filled (insertion params texts)) line = .ok parts ∧
      Follows (insertion params texts) outline parts) := by
  refine ⟨fun texts => body_eq scope params texts only named, ?_⟩
  have read (value : List Char → List Char) : glyphs (pattern.filled value) = _ :=
    Pattern.glyphs_filled clean value
  have reading (value : List Char → List Char) : IsReading (fill value pattern.marks) := by
    rw [← read]
    exact isReading_glyphs _
  obtain broken | ⟨outline, marks, fits⟩ := settled (Pattern.guarded clean) reading
  · refine .inl fun texts line => ?_
    rw [Script.segments, read]
    exact broken _ 0 line
  · refine .inr ⟨outline, marks, fun texts line => ?_⟩
    rw [Script.segments, read]
    exact fits _ 0 line

/-- The surroundings of a dispatch without anything in them. -/
private def nowhere : Scope := ⟨0, .usual, .null, false, none, none⟩

/-- What stands before a placeholder in the text of a call ends cleanly. -/
private theorem clean_bracket : EndsCleanly (glyphs ['$', 'f', '[']) :=
  @EndsCleanly.concat [.plain '$', .plain 'f'] '[' (by decide) (by decide) (by decide)

/-- Whatever is put in for its placeholder, this body is a call with two arguments. -/
theorem substitution_hygienic_first :
    (∀ texts, body nowhere (.text "$f[\x7b\x7ba\x7d\x7d;x]") [.text "a"] texts =
      pure (.ok (['$', 'f', '['] ++ (escape (insertion ["a"] texts ['a']) ++ [';', 'x', ']'])))) ∧
    ∃ outline : Outline,
      outline.marks = (Pattern.place ['$', 'f', '['] ['a'] (.last [';', 'x', ']'])).marks ∧
      ∀ texts line, ∃ parts,
        Script.segments
          (['$', 'f', '['] ++ (escape (insertion ["a"] texts ['a']) ++ [';', 'x', ']'])) line =
            .ok parts ∧
        Follows (insertion ["a"] texts) outline parts := by
  have simple : (Pattern.place ['$', 'f', '['] ['a'] (.last [';', 'x', ']'])).Simple :=
    ⟨by decide, ⟨by decide, List.forall_mem_singleton.2 rfl⟩,
      show '\x7b' ∉ [';', 'x', ']'] by decide⟩
  have only : parse "$f[\x7b\x7ba\x7d\x7d;x]".toList =
      .ok (Pattern.place ['$', 'f', '['] ['a'] (.last [';', 'x', ']'])).nodes :=
    parse_source simple
  have named : ['.'] ∉ (Pattern.place ['$', 'f', '['] ['a'] (.last [';', 'x', ']'])).names := by
    decide
  have read : Script.segments ['$', 'f', '[', ';', 'x', ']'] 1 =
      .ok [.call ⟨['f'], [';', 'x'], 0, 1⟩] :=
    (segmentsFrom_call rfl rfl).trans (by rw [segmentsFrom_nil]; rfl)
  obtain ⟨filled, broken | outlined⟩ :=
    substitution_hygienic nowhere ["a"] only named ⟨clean_bracket, trivial⟩
  · obtain ⟨e, failed⟩ := broken [] 1
    have failed : Script.segments ['$', 'f', '[', ';', 'x', ']'] 1 = .error e := failed
    rw [read] at failed
    cases failed
  · exact ⟨filled, outlined⟩

/-- A placeholder for all there is shows a mapping of the arguments. -/
private theorem body_whole (es : List (Value × Value)) {texts : List (Option String)}
    {cs : List Char} (binds : bindings (["."].map .text) texts = .ok es)
    (shows : shown (.map (Value.ofEntries es)) = .ok cs) :
    body nowhere (.text "$f[\x7b\x7b.\x7d\x7d]") (["."].map .text) texts =
      pure (.ok (['$', 'f', '['] ++ (cs ++ [']']))) := by
  have nodes : parse "$f[\x7b\x7b.\x7d\x7d]".toList =
      .ok [.text ['$', 'f', '['], .value ['.'], .text [']']] := rfl
  have top : shown (resolve [.map (Value.ofEntries es)] ['.']) = .ok cs := shows
  refine body_of_render nowhere binds ?_
  show (do renderNodes _ _ (← parse _) : Rendering (List Char)) = _
  rw [nodes]
  show renderNodes (included depthLimit) _ [.text _, .value _, .text _] = _
  rw [renderNodes, renderNodes, renderNodes, renderNode, renderNode, renderNode, top]
  rfl

/-- In a mapping that is shown, the escapes of the arguments are escaped, and an argument can be
read as something else. -/
theorem not_hygienic_whole :
    ¬∀ (scope : Scope) (code : String) (params : List String) (pattern : Pattern),
      parse code.toList = .ok pattern.nodes → pattern.Clean →
      (∀ name ∈ pattern.names, String.ofList name ∈ params) →
      ∀ (texts texts' : List (Option String)) (cs cs' : List Char) (line : Int),
        body scope (.text code) (params.map .text) texts = pure (.ok cs) →
        body scope (.text code) (params.map .text) texts' = pure (.ok cs') →
        (∃ e, Script.segments cs line = .error e) → ∃ e, Script.segments cs' line = .error e := by
  intro claimed
  have only : parse "$f[\x7b\x7b.\x7d\x7d]".toList =
      .ok (Pattern.place ['$', 'f', '['] ['.'] (.last [']'])).nodes := rfl
  have declared : ∀ name ∈ (Pattern.place ['$', 'f', '['] ['.'] (.last [']'])).names,
      String.ofList name ∈ ["."] := by
    decide
  have bracket : body nowhere (.text "$f[\x7b\x7b.\x7d\x7d]") (["."].map .text) [some "["] =
      pure (.ok (['$', 'f', '['] ++ ("\x7b'.': '\\\\['\x7d".toList ++ [']']))) :=
    body_whole [(.text ".", .text "\\[")] rfl rfl
  have letter : body nowhere (.text "$f[\x7b\x7b.\x7d\x7d]") (["."].map .text) [some "a"] =
      pure (.ok (['$', 'f', '['] ++ ("\x7b'.': 'a'\x7d".toList ++ [']']))) :=
    body_whole [(.text ".", .text "a")] rfl rfl
  have unread : Script.segments
      (['$', 'f', '['] ++ ("\x7b'.': '\\\\['\x7d".toList ++ [']'])) 1 =
        .error (unterminated ['f'] 0 1) :=
    segmentsFrom_unterminated rfl rfl
  have balanced :
      Balanced (glyphs (['$', 'f', '['] ++ ("\x7b'.': 'a'\x7d".toList ++ [']']))) := rfl
  obtain ⟨parts, read⟩ := segmentsFrom_of_level? balanced 0 1
  obtain ⟨e, failed⟩ := claimed nowhere "$f[\x7b\x7b.\x7d\x7d]" ["."] _ only
    ⟨clean_bracket, trivial⟩ declared _ _ _ _ 1 bracket letter ⟨_, unread⟩
  rw [Script.segments, read] at failed
  cases failed

end Evaluation

end CommandScript
