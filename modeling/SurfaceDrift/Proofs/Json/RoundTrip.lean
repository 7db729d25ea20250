import SurfaceDrift.DocumentFormat
import SurfaceDrift.Proofs.Document
import SurfaceDrift.Proofs.Fields
import SurfaceDrift.Proofs.Json.Scalars

/-!
# Documents that are read back from JSON

A document of which all numbers are whole ones is read back from JSON in either layout
(`readValue_write`), if its containers nest no deeper than the reader goes. A value ends where what
follows cannot carry it on, and begins with a character that is neither a blank nor the end of a
container (`exists_cons_write`), so that a reader of items tells a value from the end. The readers
of items and fields are followed for any reader of what they hold. On the whole, a document that
nests fewer than 128 deep is what its file is read as (`DocumentFormat.json_reads_back`).
-/

namespace SurfaceDrift

namespace Document

mutual

/-- How many containers are inside one another. -/
def depth : Document → Nat
  | .list items => depthOfItems items + 1
  | .object fields => depthOfFields fields + 1
  | _ => 0

/-- The greatest depth of one of the documents. -/
def depthOfItems : List Document → Nat
  | [] => 0
  | d :: rest => max (depth d) (depthOfItems rest)

/-- The greatest depth of one of the named documents. -/
def depthOfFields : List (String × Document) → Nat
  | [] => 0
  | (_, d) :: rest => max (depth d) (depthOfFields rest)

end

theorem depthOfItems_le_iff {items : List Document} {n : Nat} :
    depthOfItems items ≤ n ↔ ∀ d ∈ items, d.depth ≤ n := by
  induction items with
  | nil => simp [depthOfItems]
  | cons d rest ih => simp [depthOfItems, ih]

theorem depthOfFields_le_iff {fields : List (String × Document)} {n : Nat} :
    depthOfFields fields ≤ n ↔ ∀ entry ∈ fields, entry.2.depth ≤ n := by
  induction fields with
  | nil => simp [depthOfFields]
  | cons entry rest ih => simp [depthOfFields, ih]

/-- Every number in the document is a whole one that 64 bits hold. -/
inductive Whole : Document → Prop
  | null : Whole .null
  | bool (b : Bool) : Whole (.bool b)
  | number {n : Int} (hn : Json.IsWord n) : Whole (.number (.integer n))
  | text (s : String) : Whole (.text s)
  | list {items : List Document} (hitems : ∀ d ∈ items, Whole d) : Whole (.list items)
  | object {fields : List (String × Document)} (hfields : ∀ entry ∈ fields, Whole entry.2) :
    Whole (.object fields)

end Document

namespace Json

open Text (Reader)

variable {layout : Layout} {depth : Nat} {item : Reader Document}

/-! ## Blanks and separators -/

theorem skipBlanks_break (layout : Layout) (depth : Nat) (cs : List Char) :
    skipBlanks (layout.break depth ++ cs) = skipBlanks cs := by
  have hspaces : ∀ n, skipBlanks (List.replicate n ' ' ++ cs) = skipBlanks cs := by
    intro n
    induction n with
    | zero => rfl
    | succ n ih => simpa [skipBlanks, List.replicate_succ, isBlank] using ih
  cases layout with
  | compact => rfl
  | indented => simpa [Layout.break, skipBlanks, isBlank] using hspaces (4 * depth)

theorem skipBlanks_cons {c : Char} (hc : isBlank c = false) (cs : List Char) :
    skipBlanks (c :: cs) = c :: cs := by
  simp [skipBlanks, hc]

theorem exists_cons_integerText (n : Int) :
    ∃ c cs, integerText n = c :: cs ∧ (c = '-' ∨ c.isDigit = true) := by
  unfold integerText
  split_ifs
  · exact ⟨'-', _, rfl, Or.inl rfl⟩
  · obtain ⟨c, cs, hcs⟩ := List.exists_cons_of_ne_nil (Decimal.digitsOf_ne_nil n.natAbs)
    exact ⟨c, cs, hcs, Or.inr (Decimal.isDigit_of_mem_digitsOf (n := n.natAbs) (by simp [hcs]))⟩

/-- No digit and no minus is a blank, a bracket or another mark. -/
theorem ne_of_isDigit {c d : Char} (hc : c = '-' ∨ c.isDigit = true)
    (hd : d ∈ [' ', '\n', '\t', '\r', 'n', 't', 'f', '"', '[', ']', '{']) : c ≠ d := by
  have hmark : ∀ d ∈ [' ', '\n', '\t', '\r', 'n', 't', 'f', '"', '[', ']', '{'],
      d ≠ '-' ∧ d.isDigit = false := by simp
  rintro rfl
  obtain ⟨hminus, hdigit⟩ := hmark c hd
  rcases hc with hc | hc
  · exact hminus hc
  · rw [hdigit] at hc
    cases hc

/-- A value begins with a character that is no blank and does not end a list. -/
theorem exists_cons_write (layout : Layout) (depth : Nat) {d : Document} (h : d.Whole) :
    ∃ c cs, write layout depth d = c :: cs ∧ isBlank c = false ∧ c ≠ ']' := by
  cases h with
  | null => exact ⟨_, _, rfl, rfl, by decide⟩
  | bool b => cases b <;> exact ⟨_, _, rfl, rfl, by decide⟩
  | text s => exact ⟨_, _, rfl, rfl, by decide⟩
  | number =>
    rename_i n hn
    obtain ⟨c, cs, hcs, hc⟩ := exists_cons_integerText n
    refine ⟨c, cs, hcs, ?_, ne_of_isDigit hc (by simp)⟩
    simp [isBlank, ne_of_isDigit hc (d := ' '), ne_of_isDigit hc (d := '\n'),
      ne_of_isDigit hc (d := '\t'), ne_of_isDigit hc (d := '\r')]
  | list =>
    rename_i items hitems
    cases items <;> exact ⟨_, _, rfl, rfl, by decide⟩
  | object =>
    rename_i fields hfields
    cases fields <;> exact ⟨_, _, rfl, rfl, by decide⟩

theorem skipBlanks_write (layout : Layout) (depth : Nat) {d : Document} (h : d.Whole)
    (rest : List Char) :
    skipBlanks (write layout depth d ++ rest) = write layout depth d ++ rest := by
  obtain ⟨c, cs, hcs, hblank, -⟩ := exists_cons_write layout depth h
  rw [hcs, List.cons_append, skipBlanks_cons hblank]

theorem closes_writeItems (layout : Layout) (depth : Nat) (items : List Document)
    (rest : List Char) : Closes (writeItems layout depth items ++ rest) := by
  cases items <;> cases layout <;> simp [writeItems, Layout.break, Closes]

theorem closes_writeFields (layout : Layout) (depth : Nat) (fields : List (String × Document))
    (rest : List Char) : Closes (writeFields layout depth fields ++ rest) := by
  cases fields <;> cases layout <;> simp [writeFields, Layout.break, Closes]

/-! ## Containers -/

/-- The reader takes the document off a text that goes on after it. -/
def ReadsBack (layout : Layout) (depth : Nat) (item : Reader Document) (d : Document) : Prop :=
  ∀ rest, Closes rest → item (write layout depth d ++ rest) = some (d, rest)

theorem length_lt_writeItems (layout : Layout) (depth : Nat) (items : List Document) :
    items.length < (writeItems layout depth items).length := by
  induction items with
  | nil => simp [writeItems]
  | cons d items ih =>
    simp only [writeItems, List.length_cons, List.length_append]
    omega

theorem length_lt_writeFields (layout : Layout) (depth : Nat)
    (fields : List (String × Document)) :
    fields.length < (writeFields layout depth fields).length := by
  induction fields with
  | nil => simp [writeFields]
  | cons entry fields ih =>
    simp only [writeFields, List.length_cons, List.length_append]
    omega

/-- The items after the first one are read back, by a reader that reads back each of them. -/
theorem readItems_writeItems {items : List Document} (hwhole : ∀ d ∈ items, d.Whole)
    (hitems : ∀ d ∈ items, ReadsBack layout (depth + 1) item d) {fuel : Nat}
    (hfuel : items.length < fuel) (rest : List Char) :
    readItems item fuel (writeItems layout depth items ++ rest) = some (items, rest) := by
  induction items generalizing fuel with
  | nil =>
    obtain ⟨fuel, rfl⟩ := Nat.exists_eq_succ_of_ne_zero hfuel.ne'
    simp [writeItems, readItems, skipBlanks_break, skipBlanks_cons (c := ']') rfl]
  | cons d items ih =>
    obtain ⟨fuel, rfl⟩ := Nat.exists_eq_succ_of_ne_zero (Nat.ne_zero_of_lt hfuel)
    have hfirst := hitems d List.mem_cons_self _ (closes_writeItems layout depth items rest)
    have hrest := ih (fun e he => hwhole e (List.mem_cons_of_mem d he))
      (fun e he => hitems e (List.mem_cons_of_mem d he)) (Nat.lt_of_succ_lt_succ hfuel)
    simp [writeItems, readItems, skipBlanks_cons (c := ',') rfl, skipBlanks_break,
      skipBlanks_write layout _ (hwhole d List.mem_cons_self), hfirst, hrest]

theorem readList_write {items : List Document} (hwhole : ∀ d ∈ items, d.Whole)
    (hitems : ∀ d ∈ items, ReadsBack layout (depth + 1) item d) (rest : List Char) :
    ∃ cs, write layout depth (.list items) ++ rest = '[' :: cs ∧
      readList item cs = some (items, rest) := by
  cases items with
  | nil => exact ⟨']' :: rest, rfl, rfl⟩
  | cons d items =>
    refine ⟨_, rfl, ?_⟩
    obtain ⟨c, cs, hcs, hblank, hend⟩ := exists_cons_write layout (depth + 1)
      (hwhole d List.mem_cons_self)
    have hfirst := hitems d List.mem_cons_self _ (closes_writeItems layout depth items rest)
    have hlength := length_lt_writeItems layout depth items
    have hrest : readItems item ((writeItems layout depth items).length + rest.length + 1)
        (writeItems layout depth items ++ rest) = some (items, rest) :=
      readItems_writeItems (fun e he => hwhole e (List.mem_cons_of_mem d he))
        (fun e he => hitems e (List.mem_cons_of_mem d he)) (by omega) rest
    rw [hcs, List.cons_append] at hfirst
    rw [hcs, readList]
    simp [skipBlanks_break, skipBlanks_cons hblank, hend, hfirst, hrest]

theorem readField_write (name : String) {d : Document} (hwhole : d.Whole)
    (hd : ReadsBack layout depth item d) {rest : List Char} (hrest : Closes rest) :
    readField item (quote name ++ (layout.colon ++ (write layout depth d ++ rest))) =
      some ((name, d), rest) := by
  have hvalue := hd rest hrest
  cases layout with
  | compact =>
    simp [readField, readText_quote, Layout.colon, skipBlanks_cons (c := ':') rfl,
      skipBlanks_write _ _ hwhole, hvalue]
  | indented =>
    have hspace : ∀ cs, skipBlanks (' ' :: cs) = skipBlanks cs := fun _ => rfl
    simp [readField, readText_quote, Layout.colon, skipBlanks_cons (c := ':') rfl, hspace,
      skipBlanks_write _ _ hwhole, hvalue]

/-- The fields after the first one are read back. -/
theorem readFields_writeFields {fields : List (String × Document)}
    (hwhole : ∀ entry ∈ fields, entry.2.Whole)
    (hfields : ∀ entry ∈ fields, ReadsBack layout (depth + 1) item entry.2) {fuel : Nat}
    (hfuel : fields.length < fuel) (rest : List Char) :
    readFields item fuel (writeFields layout depth fields ++ rest) = some (fields, rest) := by
  induction fields generalizing fuel with
  | nil =>
    obtain ⟨fuel, rfl⟩ := Nat.exists_eq_succ_of_ne_zero hfuel.ne'
    simp [writeFields, readFields, skipBlanks_break, skipBlanks_cons (c := '}') rfl]
  | cons entry fields ih =>
    obtain ⟨name, d⟩ := entry
    obtain ⟨fuel, rfl⟩ := Nat.exists_eq_succ_of_ne_zero (Nat.ne_zero_of_lt hfuel)
    have hfirst := readField_write name (hwhole _ List.mem_cons_self)
      (hfields _ List.mem_cons_self) (closes_writeFields layout depth fields rest)
    have hrest := ih (fun e he => hwhole e (List.mem_cons_of_mem _ he))
      (fun e he => hfields e (List.mem_cons_of_mem _ he)) (Nat.lt_of_succ_lt_succ hfuel)
    have hquote : ∀ cs, skipBlanks (quote name ++ cs) = quote name ++ cs := fun cs =>
      skipBlanks_cons rfl _
    simp [writeFields, readFields, skipBlanks_cons (c := ',') rfl, skipBlanks_break, hquote,
      hfirst, hrest]

theorem readObject_write {fields : List (String × Document)}
    (hwhole : ∀ entry ∈ fields, entry.2.Whole)
    (hfields : ∀ entry ∈ fields, ReadsBack layout (depth + 1) item entry.2) (rest : List Char) :
    ∃ cs, write layout depth (.object fields) ++ rest = '{' :: cs ∧
      readObject item cs = some (fields, rest) := by
  cases fields with
  | nil => exact ⟨'}' :: rest, rfl, rfl⟩
  | cons entry fields =>
    obtain ⟨name, d⟩ := entry
    refine ⟨layout.break (depth + 1) ++ (quote name ++ (layout.colon ++
      (write layout (depth + 1) d ++ (writeFields layout depth fields ++ rest)))),
      by simp [write], ?_⟩
    have hfirst := readField_write name (hwhole _ List.mem_cons_self)
      (hfields _ List.mem_cons_self) (closes_writeFields layout depth fields rest)
    have hlength := length_lt_writeFields layout depth fields
    have hrest : readFields item ((writeFields layout depth fields).length + rest.length + 1)
        (writeFields layout depth fields ++ rest) = some (fields, rest) :=
      readFields_writeFields (fun e he => hwhole e (List.mem_cons_of_mem _ he))
        (fun e he => hfields e (List.mem_cons_of_mem _ he)) (by omega) rest
    obtain ⟨text, htext⟩ : ∃ text, quote name = '"' :: text := ⟨_, rfl⟩
    rw [htext, List.cons_append] at hfirst
    rw [htext, readObject]
    simp [skipBlanks_break, skipBlanks_cons (c := '"') rfl, hfirst, hrest]

/-! ## Documents -/

theorem readValue_integerText (n : Nat) (m : Int) (rest : List Char) :
    readValue n (integerText m ++ rest) =
      (readNumber (integerText m ++ rest)).map fun p => (.number p.1, p.2) := by
  obtain ⟨c, cs, hcs, hc⟩ := exists_cons_integerText m
  rw [hcs, List.cons_append, readValue.eq_def]
  split <;> simp_all [ne_of_isDigit hc]

/-- A document of whole numbers is read back wherever it stands, if it nests no deeper than the
reader goes. -/
theorem readValue_write (layout : Layout) {d : Document} (hwhole : d.Whole) (hordered : d.Ordered)
    {n : Nat} (hdepth : d.depth ≤ n) (depth : Nat) : ReadsBack layout depth (readValue n) d := by
  induction hwhole generalizing n depth with
  | null =>
    intro rest _
    rw [write, readValue.eq_def]
    rfl
  | bool b =>
    intro rest _
    cases b <;> rw [write, readValue.eq_def] <;> rfl
  | number hn =>
    intro rest hrest
    rw [write, numberText, readValue_integerText, readNumber_integerText hn hrest]
    rfl
  | text s =>
    intro rest _
    have hread := readText_quote s rest
    obtain ⟨text, htext⟩ : ∃ text, quote s = '"' :: text := ⟨_, rfl⟩
    rw [htext, List.cons_append] at hread
    rw [write, htext, List.cons_append, readValue, hread]
    rfl
  | @list items hitems ih =>
    intro rest _
    rw [Document.depth] at hdepth
    obtain ⟨n, rfl⟩ := Nat.exists_eq_succ_of_ne_zero (Nat.ne_zero_of_lt hdepth)
    have hback : ∀ d ∈ items, ReadsBack layout (depth + 1) (readValue n) d := fun d hd =>
      ih d hd (Document.orderedItems_iff.mp hordered d hd)
        (Document.depthOfItems_le_iff.mp (Nat.le_of_succ_le_succ hdepth) d hd) (depth + 1)
    obtain ⟨cs, hcs, hread⟩ := readList_write hitems hback rest
    rw [hcs, readValue]
    simp [hread]
  | @object fields hfields ih =>
    intro rest _
    rw [Document.depth] at hdepth
    obtain ⟨n, rfl⟩ := Nat.exists_eq_succ_of_ne_zero (Nat.ne_zero_of_lt hdepth)
    obtain ⟨hascending, hordered⟩ := hordered
    have hback : ∀ entry ∈ fields, ReadsBack layout (depth + 1) (readValue n) entry.2 :=
      fun entry hentry => ih entry hentry (Document.orderedFields_iff.mp hordered entry hentry)
        (Document.depthOfFields_le_iff.mp (Nat.le_of_succ_le_succ hdepth) entry hentry) (depth + 1)
    obtain ⟨cs, hcs, hread⟩ := readObject_write hfields hback rest
    rw [hcs, readValue]
    simp [hread, Document.ofFields, hascending.ofList_eq]

/-- A text that is a document in either layout, with a line break after it or without, is read as
that document. -/
theorem read?_write (layout : Layout) {d : Document} (hwhole : d.Whole) (hordered : d.Ordered)
    (hdepth : d.depth < maxDepth) {rest : List Char} (hrest : rest = [] ∨ rest = ['\n']) :
    read? (String.ofList (write layout 0 d ++ rest)) = some d := by
  have hcloses : Closes rest := by
    rcases hrest with rfl | rfl <;> simp [Closes]
  have hblank : skipBlanks rest = [] := by
    rcases hrest with rfl | rfl <;> rfl
  have hback := readValue_write layout hwhole hordered (Nat.le_sub_one_of_lt hdepth) 0 rest hcloses
  rw [read?, String.toList_ofList, skipBlanks_write layout 0 hwhole]
  simp [hback, hblank]

end Json

/-- A document in a file is read back as it was, if its numbers are whole ones that 64 bits hold
and its containers nest fewer than 128 deep. Names and texts are any. -/
theorem DocumentFormat.json_reads_back {d : Document} (hordered : d.Ordered) (hwhole : d.Whole)
    (hdepth : d.depth < 128) :
    ∃ text, DocumentFormat.json.write d = .ok text ∧ DocumentFormat.json.read? text = some d :=
  ⟨Json.file d, rfl, Json.read?_write .indented hwhole hordered hdepth (Or.inr rfl)⟩

/-- The least and the greatest number, a name and a text with characters that are escaped and with
some that are not, and containers with nothing in them. -/
def archived : Document :=
  .object [("", .list [.list [], .object [], .ofInt Decimal.minInt64]),
    ("\"\\\x01é", .text "\n\u2028\x7f/"), ("n", .ofInt Decimal.maxUInt64)]

theorem DocumentFormat.json_reads_back_archived :
    (archived.Ordered ∧ archived.Whole ∧ archived.depth < 128) ∧
      ∃ text, DocumentFormat.json.write archived = .ok text ∧
        DocumentFormat.json.read? text = some archived := by
  have hascending : ["", "\"\\\x01é", "n"].Pairwise (· < ·) := by decide +kernel
  have hordered : archived.Ordered :=
    ⟨hascending, ⟨trivial, ⟨List.Pairwise.nil, trivial⟩, trivial, trivial⟩, trivial, trivial,
      trivial⟩
  have hwhole : archived.Whole := by
    refine .object fun entry hentry => ?_
    simp only [List.mem_cons, List.not_mem_nil, or_false] at hentry
    rcases hentry with rfl | rfl | rfl
    · refine .list fun d hd => ?_
      simp only [List.mem_cons, List.not_mem_nil, or_false] at hd
      rcases hd with rfl | rfl | rfl
      · exact .list nofun
      · exact .object nofun
      · exact .number ⟨by decide, by decide⟩
    · exact .text _
    · exact .number ⟨by decide, by decide⟩
  have hdepth : archived.depth < 128 := by decide
  exact ⟨⟨hordered, hwhole, hdepth⟩, DocumentFormat.json_reads_back hordered hwhole hdepth⟩

end SurfaceDrift
