import SurfaceDrift.Builtin
import SurfaceDrift.Proofs.Sequence
import SurfaceDrift.Proofs.Text.Blank
import SurfaceDrift.Proofs.Text.Pieces

/-!
# A list of words in two notations

An option of words is given as a list of texts, or as one text with commas between the words. A
word can stand between commas if it has none in it, is not empty and has no blank at an end
(`Options.IsSeparable`). Around the words there may be blanks, and among them pieces that are empty
or blanks alone (`Options.Padded`, `Options.Joined`). A text is read as words that can stand between
commas and that it joins, and there is just one such list for it (`Options.wordsOfText_eq_iff`).
Hence a list of texts and a text that joins the same words are the same option
(`Options.encodings_agree`).
-/

namespace SurfaceDrift.Options

/-! ## Words between commas -/

/-- A word that commas separate from others : it is not empty, and there is no comma in it and no
blank at an end. -/
structure IsSeparable (word : String) : Prop extends Text.IsTrimmed word where
  ne_empty : word ≠ ""
  comma_not_mem : ',' ∉ word.toList

instance (word : String) : Decidable (IsSeparable word) :=
  decidable_of_iff (Text.trim word = word ∧ word ≠ "" ∧ ',' ∉ word.toList)
    ⟨fun ⟨htrim, hne, hcomma⟩ => ⟨htrim ▸ Text.isTrimmed_trim word, hne, hcomma⟩,
      fun h => ⟨h.trim_eq, h.ne_empty, h.comma_not_mem⟩⟩

/-- The pieces are the words in their order, each with any blanks around it, and among them any
number of pieces that are empty or blanks alone. -/
inductive Padded : List String → List String → Prop
  | nil : Padded [] []
  | blank {words pieces : List String} {piece : String} (hpiece : Text.IsBlankText piece)
    (h : Padded words pieces) : Padded words (piece :: pieces)
  | word {words pieces : List String} {before after : String} (word : String)
    (hbefore : Text.IsBlankText before) (hafter : Text.IsBlankText after)
    (h : Padded words pieces) : Padded (word :: words) ((before ++ word ++ after) :: pieces)

/-- The text is pieces that hold the words in this way, with commas between them. -/
def Joined (words : List String) (text : String) : Prop :=
  ∃ pieces, Padded words pieces ∧ ",".intercalate pieces = text

/-! ## Words of pieces -/

/-- The words that the pieces of a text hold. -/
def wordsOfPieces (pieces : List String) : List String :=
  (pieces.map Text.trim).filter fun word => !word.isEmpty

theorem wordsOfPieces_cons_of_blank {piece : String} (h : Text.IsBlankText piece)
    (pieces : List String) : wordsOfPieces (piece :: pieces) = wordsOfPieces pieces := by
  rw [wordsOfPieces, List.map_cons, Text.trim_eq_empty_iff.mpr h]
  exact List.filter_cons_of_neg (by simp)

theorem wordsOfPieces_cons_of_ne {piece : String} (h : Text.trim piece ≠ "")
    (pieces : List String) :
    wordsOfPieces (piece :: pieces) = Text.trim piece :: wordsOfPieces pieces := by
  rw [wordsOfPieces, List.map_cons]
  exact List.filter_cons_of_pos (by simpa using h)

theorem padded_wordsOfPieces (pieces : List String) : Padded (wordsOfPieces pieces) pieces := by
  induction pieces with
  | nil => exact .nil
  | cons piece pieces ih =>
    by_cases hpiece : Text.trim piece = ""
    · have hblank := Text.trim_eq_empty_iff.mp hpiece
      rw [wordsOfPieces_cons_of_blank hblank]
      exact .blank hblank ih
    · obtain ⟨before, after, heq, hbefore, hafter⟩ := Text.exists_append_trim piece
      rw [wordsOfPieces_cons_of_ne hpiece]
      have hword := Padded.word (Text.trim piece) hbefore hafter ih
      rwa [← heq] at hword

namespace Padded

variable {words pieces : List String}

theorem wordsOfPieces_eq (h : Padded words pieces) (hwords : ∀ word ∈ words, IsSeparable word) :
    wordsOfPieces pieces = words := by
  induction h with
  | nil => rfl
  | blank hpiece _ ih => rw [wordsOfPieces_cons_of_blank hpiece, ih hwords]
  | @word words pieces before after word hbefore hafter _ ih =>
    obtain ⟨hword, hrest⟩ := List.forall_mem_cons.mp hwords
    have htrim : Text.trim (before ++ word ++ after) = word :=
      (Text.trim_append hbefore hafter word).trans hword.trim_eq
    have hne : Text.trim (before ++ word ++ after) ≠ "" := by
      rw [htrim]
      exact hword.ne_empty
    rw [wordsOfPieces_cons_of_ne hne, htrim, ih hrest]

theorem comma_not_mem (h : Padded words pieces) (hwords : ∀ word ∈ words, IsSeparable word) :
    ∀ piece ∈ pieces, ',' ∉ piece.toList := by
  have hblank : ∀ {s : String}, Text.IsBlankText s → ',' ∉ s.toList := fun hs hmem =>
    absurd (hs ',' hmem) (by decide)
  induction h with
  | nil => exact List.forall_mem_nil _
  | blank hpiece _ ih => exact List.forall_mem_cons.mpr ⟨hblank hpiece, ih hwords⟩
  | word word hbefore hafter _ ih =>
    obtain ⟨hword, hrest⟩ := List.forall_mem_cons.mp hwords
    refine List.forall_mem_cons.mpr ⟨?_, ih hrest⟩
    rw [String.toList_append, String.toList_append, List.mem_append, List.mem_append]
    rintro ((hmem | hmem) | hmem)
    · exact hblank hbefore hmem
    · exact hword.comma_not_mem hmem
    · exact hblank hafter hmem

end Padded

/-! ## Words of a text -/

theorem isSeparable_of_mem_wordsOfText {text word : String} (h : word ∈ wordsOfText text) :
    IsSeparable word := by
  obtain ⟨hmem, hne⟩ := List.mem_filter.mp h
  obtain ⟨piece, hpiece, rfl⟩ := List.mem_map.mp hmem
  obtain ⟨before, after, heq, -, -⟩ := Text.exists_append_trim piece
  have hcomma := (Text.split_spec ',' text).2.1 piece hpiece
  refine ⟨Text.isTrimmed_trim piece, by simpa using hne, fun hmem => hcomma ?_⟩
  rw [heq, String.toList_append, String.toList_append]
  exact List.mem_append_left _ (List.mem_append_right _ hmem)

theorem wordsOfText_eq (text : String) :
    wordsOfText text = wordsOfPieces (Text.split ',' text) := rfl

theorem joined_wordsOfText (text : String) : Joined (wordsOfText text) text :=
  ⟨Text.split ',' text, padded_wordsOfPieces _, (Text.split_spec ',' text).1⟩

theorem Joined.wordsOfText_eq {words : List String} {text : String} (h : Joined words text)
    (hwords : ∀ word ∈ words, IsSeparable word) : wordsOfText text = words := by
  obtain ⟨pieces, hpadded, rfl⟩ := h
  by_cases hne : pieces = []
  · -- Without a piece the text is empty, and an empty text has a piece after all.
    subst hne
    cases hpadded
    rfl
  · have hsplit : Text.split ',' (",".intercalate pieces) = pieces :=
      Text.split_intercalate (hpadded.comma_not_mem hwords) hne
    rw [Options.wordsOfText_eq, hsplit, hpadded.wordsOfPieces_eq hwords]

/-- A text is read as the only words that it joins and that commas separate. -/
theorem wordsOfText_eq_iff {text : String} {words : List String} :
    wordsOfText text = words ↔ (∀ word ∈ words, IsSeparable word) ∧ Joined words text := by
  constructor
  · rintro rfl
    exact ⟨fun word => isSeparable_of_mem_wordsOfText, joined_wordsOfText text⟩
  · rintro ⟨hwords, hjoined⟩
    exact hjoined.wordsOfText_eq hwords

/-! ## The option -/

variable {options : Options} {key : String}

theorem words_of_text {text : String}
    (h : Fields.find? options.params key = some (.text text)) (default : List String) :
    options.words key default = .ok (wordsOfText text) := by
  rw [words, h]

theorem words_of_list {words : List String}
    (h : Fields.find? options.params key = some (.list (words.map .text)))
    (default : List String) : options.words key default = .ok words := by
  rw [Options.words, h]
  dsimp only
  rw [mapM_eq_ok_iff, List.forall₂_map_left_iff, List.forall₂_same]
  exact fun word _ => rfl

/-- A list of texts is read as these words, and a text as the same words if it joins them by commas,
with any blanks around each word and any pieces of blanks alone, and only then. -/
theorem encodings_agree {listed joined : Options} {words : List String} {text : String}
    (hwords : ∀ word ∈ words, IsSeparable word)
    (hlisted : Fields.find? listed.params key = some (.list (words.map .text)))
    (hjoined : Fields.find? joined.params key = some (.text text)) (default : List String) :
    listed.words key default = .ok words ∧
      (joined.words key default = listed.words key default ↔ Joined words text) := by
  rw [words_of_list hlisted, words_of_text hjoined]
  refine ⟨rfl, ?_⟩
  rw [Except.ok.injEq, wordsOfText_eq_iff]
  exact and_iff_right hwords

/-- The options of a table of terms of which the stop words are given. -/
def ofStopWords (value : Document) : Options := ⟨Terms.name, [("stop_words", value)]⟩

/-- A text with blanks of several kinds around its words, with blank pieces in between and with a
comma at its end. -/
theorem encodings_agree_stopWords :
    (∀ word ∈ ["größe", "of the"], IsSeparable word) ∧
      Joined ["größe", "of the"] " größe\t,,\u3000,of the\n," ∧
      (ofStopWords (.list [.text "größe", .text "of the"])).words "stop_words" ["english"] =
        .ok ["größe", "of the"] ∧
      (ofStopWords (.text " größe\t,,\u3000,of the\n,")).words "stop_words" ["english"] =
        (ofStopWords (.list [.text "größe", .text "of the"])).words "stop_words" ["english"] := by
  have hwords : ∀ word ∈ ["größe", "of the"], IsSeparable word := by
    simp only [List.forall_mem_cons]
    exact ⟨by decide +kernel, by decide +kernel, List.forall_mem_nil _⟩
  have hpadded : Padded ["größe", "of the"] [" größe\t", "", "\u3000", "of the\n", ""] := by
    have hempty : Text.IsBlankText "" := by simp [Text.IsBlankText]
    have hspace : Text.IsBlankText " " := by simp [Text.IsBlankText, Text.isBlank]
    have htab : Text.IsBlankText "\t" := by simp [Text.IsBlankText, Text.isBlank]
    have hwide : Text.IsBlankText "\u3000" := by simp [Text.IsBlankText, Text.isBlank]
    have hline : Text.IsBlankText "\n" := by simp [Text.IsBlankText, Text.isBlank]
    exact .word "größe" hspace htab
      (.blank hempty (.blank hwide (.word "of the" hempty hline (.blank hempty .nil))))
  have hjoined : Joined ["größe", "of the"] " größe\t,,\u3000,of the\n," :=
    ⟨_, hpadded, by decide +kernel⟩
  have hlisted : Fields.find?
      (ofStopWords (.list (["größe", "of the"].map Document.text))).params "stop_words" =
        some (.list (["größe", "of the"].map Document.text)) := rfl
  have htext : Fields.find?
      (ofStopWords (.text " größe\t,,\u3000,of the\n,")).params "stop_words" =
        some (.text " größe\t,,\u3000,of the\n,") := rfl
  obtain ⟨hread, hagree⟩ := encodings_agree hwords hlisted htext ["english"]
  exact ⟨hwords, hjoined, hread, hagree.mpr hjoined⟩

end SurfaceDrift.Options
