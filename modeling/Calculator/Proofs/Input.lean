import Calculator.Editor

/-!
# Lines of an input

An input is bytes, and an editor hands it over as lines of text. `Input` says which lines bytes hold, from the point of
view of whoever writes them: each line is encoded in UTF-8 with its ending behind it. The main statements are
`exists_input`, that all bytes hold some lines, and `Editor.map_lineOf_lines`, that an editor hands these lines over if
it changes none of them.
-/

namespace Calculator

namespace Text

/-! ### UTF-8 -/

/-- The bytes of a text. -/
def encode (text : List Char) : List UInt8 :=
  text.flatMap String.utf8EncodeChar

@[simp] theorem encode_nil : encode [] = [] := rfl

@[simp] theorem encode_append (a b : List Char) : encode (a ++ b) = encode a ++ encode b :=
  List.flatMap_append

private theorem encode_newline : encode ['\n'] = [10] := by
  decide

private theorem encode_ne_nil {text : List Char} (h : text ≠ []) : encode text ≠ [] := by
  obtain ⟨c, rest, rfl⟩ := List.exists_cons_of_ne_nil h
  simp [encode]

/-- Bytes stand for a text exactly if they are its encoding. -/
private theorem decode?_eq_some_iff {bytes : List UInt8} {text : List Char} :
    decode? bytes = some text ↔ bytes = encode text := by
  unfold decode? String.fromUTF8?
  constructor
  · intro h
    split at h
    · next hvalid =>
      have hbytes : (String.fromUTF8 bytes.toByteArray hvalid).toList.utf8Encode = bytes.toByteArray := by
        rw [String.utf8Encode_toList]
        rfl
      rw [Option.map_some, Option.some.injEq] at h
      rw [h] at hbytes
      exact (List.toByteArray_inj.1 hbytes).symm
    · cases h
  · rintro rfl
    have hvalid : (encode text).toByteArray.IsValidUTF8 := .intro text rfl
    rw [dif_pos hvalid, Option.map_some, Option.some.injEq]
    exact String.toList_ofList

theorem decode?_encode (text : List Char) : decode? (encode text) = some text :=
  decode?_eq_some_iff.2 rfl

private theorem ne_ofNat {n : Nat} (h : n % 256 ≠ 10) : (10 : UInt8) ≠ UInt8.ofNat n := by
  intro heq
  have hnat := congrArg UInt8.toNat heq
  rw [UInt8.toNat_ofNat'] at hnat
  exact h hnat.symm

/-- The bytes of a character that takes more than one byte are large. -/
private theorem newline_mem_utf8EncodeChar {c : Char} (h : 10 ∈ String.utf8EncodeChar c) : c = '\n' := by
  unfold String.utf8EncodeChar at h
  simp only at h
  split at h
  · next hsmall =>
    rw [List.mem_singleton] at h
    have hnat : c.val.toNat % 256 = 10 := by
      apply Classical.byContradiction
      intro hne
      exact ne_ofNat hne h
    apply Char.ext
    apply UInt32.toNat_inj.1
    show c.val.toNat = 10
    omega
  · exfalso
    split at h
    · simp only [List.mem_cons, List.not_mem_nil, or_false] at h
      rcases h with h | h <;> exact ne_ofNat (by omega) h
    · split at h
      · simp only [List.mem_cons, List.not_mem_nil, or_false] at h
        rcases h with h | h | h <;> exact ne_ofNat (by omega) h
      · simp only [List.mem_cons, List.not_mem_nil, or_false] at h
        rcases h with h | h | h | h <;> exact ne_ofNat (by omega) h

/-- A byte is a line feed only where the character is. -/
private theorem newline_mem_encode {text : List Char} : 10 ∈ encode text ↔ '\n' ∈ text := by
  constructor
  · intro h
    obtain ⟨c, hc, hmem⟩ := List.mem_flatMap.1 h
    rwa [← newline_mem_utf8EncodeChar hmem]
  · intro h
    exact List.mem_flatMap.2 ⟨'\n', h, by decide⟩

private theorem newline_not_mem_encode {text : List Char} (h : '\n' ∉ text) : 10 ∉ encode text :=
  fun hmem => h (newline_mem_encode.1 hmem)

/-- Bytes that end with a line feed stand for a text that does. -/
private theorem exists_eq_append_newline {line : List UInt8} {text : List Char} (h : line ++ [10] = encode text) :
    ∃ front, text = front ++ ['\n'] ∧ line = encode front := by
  rcases List.eq_nil_or_concat text with rfl | ⟨front, c, rfl⟩
  · simp at h
  · rw [List.concat_eq_append] at h ⊢
    have hlast := congrArg List.getLast? h
    have hchar : encode [c] ≠ [] := encode_ne_nil (List.cons_ne_nil c [])
    rw [encode_append, List.getLast?_concat, List.getLast?_append, List.getLast?_eq_some_getLast hchar, Option.some_or,
      Option.some.injEq] at hlast
    have hmem : 10 ∈ encode [c] := by
      rw [hlast]
      exact List.getLast_mem hchar
    obtain rfl : '\n' = c := List.mem_singleton.1 (newline_mem_encode.1 hmem)
    rw [encode_append, encode_newline] at h
    exact ⟨front, rfl, List.append_cancel_right h⟩

/-! ### Lines -/

private theorem lines_newline {line : List UInt8} (h : 10 ∉ line) (rest : List UInt8) :
    lines (line ++ 10 :: rest) = (line ++ [10]) :: lines rest := by
  have hne := List.splitOn_ne_nil 10 rest
  unfold lines
  rw [List.splitOn_append_cons_self_of_not_mem h]
  obtain ⟨piece, pieces, hpieces⟩ := List.exists_cons_of_ne_nil hne
  simp [hpieces]

private theorem lines_last {line : List UInt8} (h : 10 ∉ line) (hne : line ≠ []) : lines line = [line] := by
  unfold lines
  rw [List.splitOn_eq_singleton h]
  simp [hne]

private theorem content_newline {text : List Char} (h : text.getLast? ≠ some '\r') :
    content (text ++ ['\n']) = text := by
  unfold content
  rw [List.reverse_append, List.reverse_singleton, List.singleton_append]
  rw [← List.head?_reverse] at h
  split
  · next rest heq =>
    rw [(List.cons.inj heq).2] at h
    exact absurd rfl h
  · next rest heq =>
    rw [← (List.cons.inj heq).2, List.reverse_reverse]
  · next hno =>
    exact absurd rfl (hno text.reverse)

private theorem content_returnNewline (text : List Char) : content (text ++ ['\r', '\n']) = text := by
  simp [content]

private theorem content_of_not_mem {text : List Char} (h : '\n' ∉ text) : content text = text := by
  have hreverse : ∀ rest, text.reverse ≠ '\n' :: rest := by
    intro rest heq
    apply h
    rw [← List.mem_reverse, heq]
    exact List.mem_cons_self
  unfold content
  split
  · next heq => exact absurd heq (hreverse _)
  · next heq => exact absurd heq (hreverse _)
  · rfl

end Text

/-! ### Inputs -/

open Text (encode decode?)

/-- `Input bytes lines stop`: bytes are lines with these texts, and behind them the input ends, or there is a line that
is no text. -/
inductive Input : List UInt8 → List (List Char) → Option Stop → Prop
  | done : Input [] [] none
  /-- The last line may lack an ending. -/
  | last {line : List Char} (notEmpty : line ≠ []) (noFeed : '\n' ∉ line) : Input (encode line) [line] none
  /-- A line feed ends a line. A carriage return in front of it would belong to the ending. -/
  | feed {line : List Char} {bytes : List UInt8} {lines : List (List Char)} {stop : Option Stop}
      (noFeed : '\n' ∉ line) (noReturn : line.getLast? ≠ some '\r') (rest : Input bytes lines stop) :
      Input (encode (line ++ ['\n']) ++ bytes) (line :: lines) stop
  /-- A carriage return and a line feed end a line. -/
  | returnFeed {line : List Char} {bytes : List UInt8} {lines : List (List Char)} {stop : Option Stop}
      (noFeed : '\n' ∉ line) (rest : Input bytes lines stop) :
      Input (encode (line ++ ['\r', '\n']) ++ bytes) (line :: lines) stop
  /-- The bytes up to the next line feed, or up to the end, are no text. -/
  | unreadableLine {line rest : List UInt8} (noFeed : 10 ∉ line) (notText : decode? (line ++ [10]) = none) :
      Input (line ++ 10 :: rest) [] (some .lineNotText)
  | unreadableEnd {line : List UInt8} (noFeed : 10 ∉ line) (notText : decode? line = none) :
      Input line [] (some .lineNotText)

private theorem exists_input_line {line : List Char} {bytes : List UInt8} {lines : List (List Char)}
    {stop : Option Stop} (h : '\n' ∉ line) (rest : Input bytes lines stop) :
    ∃ lines', Input (encode (line ++ ['\n']) ++ bytes) lines' stop := by
  by_cases hreturn : line.getLast? = some '\r'
  · -- then the ending has two characters
    obtain ⟨front, rfl⟩ := List.getLast?_eq_some_iff.1 hreturn
    rw [List.append_assoc, List.singleton_append]
    exact ⟨front :: lines, .returnFeed (fun hmem => h (List.mem_append_left _ hmem)) rest⟩
  · exact ⟨line :: lines, .feed h hreturn rest⟩

/-- Bytes have no line feed, or something up to the first one. -/
private theorem cut_newline (bytes : List UInt8) :
    10 ∉ bytes ∨ ∃ line rest, bytes = line ++ 10 :: rest ∧ 10 ∉ line := by
  by_cases h : 10 ∈ bytes
  · obtain ⟨line, rest, rfl, hline⟩ := List.eq_append_cons_of_mem h
    exact .inr ⟨line, rest, rfl, hline⟩
  · exact .inl h

/-- All bytes hold some lines, up to the end or to a line that is no text. -/
theorem exists_input (bytes : List UInt8) : ∃ lines stop, Input bytes lines stop := by
  rcases cut_newline bytes with hline | ⟨line, rest, rfl, hline⟩
  · cases htext : decode? bytes with
    | none => exact ⟨_, _, .unreadableEnd hline htext⟩
    | some text =>
      obtain rfl := Text.decode?_eq_some_iff.1 htext
      by_cases hne : text = []
      · rw [hne]
        exact ⟨_, _, .done⟩
      · exact ⟨_, _, .last hne fun hmem => hline (Text.newline_mem_encode.2 hmem)⟩
  · cases htext : decode? (line ++ [10]) with
    | none => exact ⟨_, _, .unreadableLine hline htext⟩
    | some text =>
      obtain ⟨front, rfl, rfl⟩ := Text.exists_eq_append_newline (Text.decode?_eq_some_iff.1 htext)
      obtain ⟨lines, stop, hrest⟩ := exists_input rest
      have hfront : '\n' ∉ front := fun hmem => hline (Text.newline_mem_encode.2 hmem)
      obtain ⟨lines', hinput⟩ := exists_input_line hfront hrest
      rw [Text.encode_append, Text.encode_newline, List.append_assoc] at hinput
      exact ⟨lines', stop, hinput⟩
termination_by bytes.length
decreasing_by
  rw [‹bytes = _›]
  simp only [List.length_append, List.length_cons]
  omega

namespace Input

variable {bytes bytes' : List UInt8} {lines lines' : List (List Char)} {stop : Option Stop}

theorem eq_lineNotText {s : Stop} (h : Input bytes lines (some s)) : s = .lineNotText := by
  generalize hstop : some s = stop at h
  induction h with
  | done => cases hstop
  | last _ _ => cases hstop
  | feed _ _ _ ih => exact ih hstop
  | returnFeed _ _ ih => exact ih hstop
  | unreadableLine _ _ => exact Option.some.inj hstop
  | unreadableEnd _ _ => exact Option.some.inj hstop

private theorem ends_of_append {a b : List UInt8} (h : a ++ b = [] ∨ (a ++ b).getLast? = some 10) :
    b = [] ∨ b.getLast? = some 10 := by
  cases b with
  | nil => exact .inl rfl
  | cons byte b =>
    have hne : byte :: b ≠ [] := List.cons_ne_nil byte b
    have hlast := h.resolve_left fun hnil => hne (List.append_eq_nil_iff.1 hnil).2
    rw [List.getLast?_append, List.getLast?_eq_some_getLast hne, Option.some_or] at hlast
    exact .inr (by rw [List.getLast?_eq_some_getLast hne, hlast])

/-- Where the last line has its ending, more lines may follow. -/
theorem append (h : Input bytes lines none) (hend : bytes = [] ∨ bytes.getLast? = some 10)
    (h' : Input bytes' lines' stop) : Input (bytes ++ bytes') (lines ++ lines') stop := by
  generalize hnone : none = first at h
  induction h with
  | done => exact h'
  | last notEmpty noFeed =>
    rcases hend with hnil | hlast
    · exact absurd hnil (Text.encode_ne_nil notEmpty)
    · exact absurd (Text.newline_mem_encode.1 (List.mem_of_getLast? hlast)) noFeed
  | feed noFeed noReturn _ ih =>
    rw [List.append_assoc]
    exact .feed noFeed noReturn (ih (ends_of_append hend) hnone)
  | returnFeed noFeed _ ih =>
    rw [List.append_assoc]
    exact .returnFeed noFeed (ih (ends_of_append hend) hnone)
  | unreadableLine _ _ => cases hnone
  | unreadableEnd _ _ => cases hnone

end Input

/-! ### What is handed over -/

namespace Editor

variable {editor : Editor}

/-- The editor hands over lines as they are typed. -/
def Keeps (editor : Editor) (lines : List (List Char)) : Prop :=
  ∀ line ∈ lines, editor.edited? line = some line

/-- Without a terminal only backspaces change a line. -/
theorem keeps_direct {lines : List (List Char)} (h : ∀ line ∈ lines, '\x08' ∉ line) : direct.Keeps lines :=
  fun line hline => Text.erased?_of_not_mem (h line hline)

theorem Keeps.append {lines lines' : List (List Char)} (h : editor.Keeps lines) (h' : editor.Keeps lines') :
    editor.Keeps (lines ++ lines') :=
  List.forall_mem_append.2 ⟨h, h'⟩

private theorem lineOf_encode {whole line : List Char} (hline : Text.content whole = line)
    (h : editor.edited? line = some line) : editor.lineOf (encode whole) = .ok line := by
  simp only [lineOf, Text.decode?_encode, hline, h]

private theorem lineOf_unreadable {line : List UInt8} (h : decode? line = none) :
    editor.lineOf line = .error .lineNotText := by
  simp only [lineOf, h]

/-- A line with its ending is the first that is handed over. -/
private theorem map_lineOf_encode {front line : List Char} (hfront : '\n' ∉ front)
    (hline : Text.content (front ++ ['\n']) = line) (h : editor.edited? line = some line) (bytes : List UInt8) :
    (Text.lines (encode (front ++ ['\n']) ++ bytes)).map editor.lineOf =
      .ok line :: (Text.lines bytes).map editor.lineOf := by
  have hfirst := lineOf_encode hline h
  rw [Text.encode_append, Text.encode_newline] at hfirst ⊢
  rw [List.append_assoc, List.singleton_append, Text.lines_newline (Text.newline_not_mem_encode hfront), List.map_cons,
    hfirst]

/-- An editor that keeps the lines of an input hands them over, and then what stops it. -/
theorem map_lineOf_lines {bytes : List UInt8} {lines : List (List Char)} {stop : Option Stop}
    (h : Input bytes lines stop) (hkeeps : editor.Keeps lines) :
    ∃ rest, (Text.lines bytes).map editor.lineOf = lines.map .ok ++ stop.toList.map .error ++ rest ∧
      (stop = none → rest = []) := by
  induction h with
  | done => exact ⟨[], rfl, fun _ => rfl⟩
  | @last line notEmpty noFeed =>
    have hline := lineOf_encode (Text.content_of_not_mem noFeed) (hkeeps line List.mem_cons_self)
    rw [Text.lines_last (Text.newline_not_mem_encode noFeed) (Text.encode_ne_nil notEmpty), List.map_singleton, hline]
    exact ⟨[], rfl, fun _ => rfl⟩
  | @feed line _ _ _ noFeed noReturn _ ih =>
    obtain ⟨hline, hlines⟩ := List.forall_mem_cons.1 hkeeps
    obtain ⟨rest, hrest, hnone⟩ := ih hlines
    rw [map_lineOf_encode noFeed (Text.content_newline noReturn) hline, hrest]
    exact ⟨rest, rfl, hnone⟩
  | @returnFeed line _ _ _ noFeed _ ih =>
    obtain ⟨hline, hlines⟩ := List.forall_mem_cons.1 hkeeps
    obtain ⟨rest, hrest, hnone⟩ := ih hlines
    -- in front of the line feed stands the line with the other half of its ending
    have hending : line ++ ['\r', '\n'] = line ++ ['\r'] ++ ['\n'] := by simp
    have hcontent := Text.content_returnNewline line
    rw [hending] at hcontent ⊢
    rw [map_lineOf_encode (by simp [noFeed]) hcontent hline, hrest]
    exact ⟨rest, rfl, hnone⟩
  | @unreadableLine line rest noFeed notText =>
    rw [Text.lines_newline noFeed, List.map_cons, lineOf_unreadable notText]
    exact ⟨(Text.lines rest).map editor.lineOf, rfl, fun h => nomatch h⟩
  | @unreadableEnd line noFeed notText =>
    have hne : line ≠ [] := by
      rintro rfl
      exact absurd (Text.decode?_encode []) (by rw [Text.encode_nil, notText]; simp)
    rw [Text.lines_last noFeed hne, List.map_singleton, lineOf_unreadable notText]
    exact ⟨[], rfl, fun h => nomatch h⟩

end Editor

end Calculator
