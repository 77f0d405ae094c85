import ChannelGateway.Json.Reader
import ChannelGateway.Json.Writer
import ChannelGateway.Proofs.Numerals

/-!
# JSON texts: what is written is read back

`Json.echo` is the value that the written form of a value denotes: a number becomes what
`readNumber?` makes of its literal, a number that is not finite becomes `null`, and all else stays
as it is. Nothing in it depends on the blanks between the tokens, nor on how a text is escaped.

The reader takes one character after the other, so the statements are about `Reader.run`, from a
state that awaits a value (`Reader.Awaits`) to one in which the value has been read (`Reader.Ends`).
A word or a number has no end of its own: it ends with the character after it, and `Reader.Ends`
says that whatever closes it finds the value.

Results:
* `run_escape`, `run_quote`: a text literal is read as the text it was written for, whatever its
  characters are.
* `run_write`: a value is read as its echo, in every container and with every spacing.
* **`ofChars?_write`**, `ofBytes?_compact`: a written value that does not nest too deep is read as
  its echo.
-/

namespace ChannelGateway.Json

/-! ## What a written value denotes -/

mutual

/-- The value that the written form of a value denotes; none when a number in it has a literal that
is not read. -/
def echo : Json → Option Json
  | .null => some .null
  | .bool b => some (.bool b)
  | .int n => readNumber? (toString n).toList
  | .float x => if x.isFinite then readNumber? (floatText x) else some .null
  | .text s => some (.text s)
  | .array items => (echoItems items).map .array
  | .object fields => (echoFields fields).map .object

/-- The values that written items denote. -/
def echoItems : List Json → Option (List Json)
  | [] => some []
  | v :: items => (echo v).bind fun w => (echoItems items).map (w :: ·)

/-- The fields that written fields denote. -/
def echoFields : List (String × Json) → Option (List (String × Json))
  | [] => some []
  | (key, v) :: fields => (echo v).bind fun w => (echoFields fields).map ((key, w) :: ·)

end

mutual

/-- How deep the containers of a value nest. -/
def height : Json → Nat
  | .null => 0
  | .bool _ => 0
  | .int _ => 0
  | .float _ => 0
  | .text _ => 0
  | .array items => heightItems items + 1
  | .object fields => heightFields fields + 1

/-- How deep the containers of items nest. -/
def heightItems : List Json → Nat
  | [] => 0
  | v :: items => max (height v) (heightItems items)

/-- How deep the containers of fields nest. -/
def heightFields : List (String × Json) → Nat
  | [] => 0
  | (_, v) :: fields => max (height v) (heightFields fields)

end

/-- A spacing puts nothing but blanks between tokens. -/
structure Spacing.Blank (sp : Spacing) : Prop where
  line : ∀ depth, ∀ c ∈ sp.line depth, Reader.isBlank c = true
  colon : ∀ c ∈ sp.colon, Reader.isBlank c = true

theorem Spacing.none_blank : Spacing.none.Blank where
  line _ _ h := absurd h List.not_mem_nil
  colon _ h := absurd h List.not_mem_nil

/-! ## Number literals -/

section Literals

open Literal Reader

/-- What is left of a text once some characters of numbers are taken from its front. -/
def Peels (cs rest : List Char) : Prop :=
  ∃ front, cs = front ++ rest ∧ ∀ c ∈ front, isNumeric c = true

theorem Peels.refl (cs : List Char) : Peels cs cs :=
  ⟨[], rfl, fun _ h => absurd h List.not_mem_nil⟩

theorem Peels.cons {c : Char} {cs rest : List Char} (hc : isNumeric c = true) (h : Peels cs rest) :
    Peels (c :: cs) rest := by
  obtain ⟨front, rfl, hfront⟩ := h
  exact ⟨c :: front, rfl, List.forall_mem_cons.mpr ⟨hc, hfront⟩⟩

theorem Peels.trans {cs rest more : List Char} (h : Peels cs rest) (h' : Peels rest more) :
    Peels cs more := by
  obtain ⟨front, rfl, hfront⟩ := h
  obtain ⟨front', rfl, hfront'⟩ := h'
  exact ⟨front ++ front', by rw [List.append_assoc],
    List.forall_mem_append.mpr ⟨hfront, hfront'⟩⟩

theorem isNumeric_of_isDigit {c : Char} (h : c.isDigit = true) : isNumeric c = true := by
  simp [isNumeric, h]

theorem digitRun_parts (cs : List Char) :
    cs = (digitRun cs).1 ++ (digitRun cs).2 ∧ IsRun (digitRun cs).1 := by
  rw [digitRun, List.span_eq_takeWhile_dropWhile]
  exact ⟨List.takeWhile_append_dropWhile.symm, List.all_eq_true.mp List.all_takeWhile⟩

theorem peels_digitRun (cs : List Char) : Peels cs (digitRun cs).2 :=
  ⟨_, (digitRun_parts cs).1, fun c h => isNumeric_of_isDigit ((digitRun_parts cs).2 c h)⟩

theorem peels_takeSign (cs : List Char) : Peels cs (takeSign cs).2 := by
  unfold takeSign
  split
  · exact (Peels.refl _).cons rfl
  · exact .refl _

theorem peels_takeFraction (cs : List Char) : Peels cs (takeFraction cs).2 := by
  unfold takeFraction
  split
  · exact (peels_digitRun _).cons rfl
  · exact .refl _

theorem peels_takePowerSign (cs : List Char) : Peels cs (takePowerSign cs).2 := by
  unfold takePowerSign
  split
  · exact (Peels.refl _).cons rfl
  · exact (Peels.refl _).cons rfl
  · exact .refl _

theorem peels_takePower (cs : List Char) : Peels cs (takePower cs).2 := by
  unfold takePower
  split
  · rename_i e rest
    split
    · rename_i he
      have hnumeric : isNumeric e = true := by
        obtain rfl | rfl := he <;> rfl
      exact ((peels_takePowerSign rest).trans (peels_digitRun _)).cons hnumeric
    · exact .refl _
  · exact .refl _

/-- What is read as a number consists of characters of numbers, and begins with a sign or a
digit. -/
theorem numeric_of_readNumber? {cs : List Char} {v : Json} (h : readNumber? cs = some v) :
    (∀ c ∈ cs, isNumeric c = true) ∧
      ∃ c rest, cs = c :: rest ∧ (c = '-' ∨ c.isDigit = true) := by
  obtain ⟨l, hl, -⟩ := Option.bind_eq_some_iff.mp h
  rw [split?_eq] at hl
  simp only [Option.ite_none_right_eq_some, Bool.and_eq_true, List.isEmpty_iff] at hl
  obtain ⟨⟨⟨⟨hwhole, -⟩, -⟩, hrest⟩, -⟩ := hl
  have hpeels : Peels cs [] := by
    rw [← hrest]
    exact (((peels_takeSign cs).trans (peels_digitRun _)).trans (peels_takeFraction _)).trans
      (peels_takePower _)
  refine ⟨?_, ?_⟩
  · obtain ⟨front, rfl, hfront⟩ := hpeels
    rwa [List.append_nil]
  · obtain ⟨hparts, hrun⟩ := digitRun_parts (takeSign cs).2
    match hd : (digitRun (takeSign cs).2).1 with
    | [] =>
      rw [hd] at hwhole
      cases hwhole
    | d :: ds =>
      have hdigit : d.isDigit = true := hrun d (by simp [hd])
      rw [hd] at hparts
      unfold takeSign at hparts
      split at hparts
      · exact ⟨'-', _, rfl, .inl rfl⟩
      · exact ⟨d, _, hparts, .inr hdigit⟩

end Literals

namespace Reader

/-! ## Runs of the reader -/

theorem run_append {r r' : Reader} {cs : List Char} (h : r.run cs = some r') (more : List Char) :
    r.run (cs ++ more) = r'.run more := by
  induction cs generalizing r with
  | nil =>
    cases h
    rfl
  | cons c cs ih =>
    rw [List.cons_append, run]
    rw [run] at h
    cases hc : r.step c with
    | none =>
      rw [hc] at h
      cases h
    | some r₁ =>
      rw [hc] at h
      exact ih h

theorem run_cons {r r' : Reader} {c : Char} (h : r.step c = some r') (rest : List Char) :
    r.run (c :: rest) = r'.run rest := by
  rw [run, h]

/-! ## Text literals -/

theorem hexValue?_hexDigit (n : Nat) : hexValue? (hexDigit n) = some (n % 16) := by
  have h : ∀ d < 16, hexValue? (Nat.digitChar d) = some d := by decide
  exact h (n % 16) (Nat.mod_lt n (by decide))

/-- A digit of a code that is not the last one. -/
theorem step_hex {c : Char} {d : Nat} (hd : hexValue? c = some d) (purpose : Purpose)
    (read : List Char) (missing code : Nat) (stack : List Frame) :
    step ⟨.text purpose read (.hex (missing + 2) code none), stack⟩ c =
      some ⟨.text purpose read (.hex (missing + 1) (code * 16 + d) none), stack⟩ := by
  simp only [step, stepText, hd, Option.bind_some]
  rw [if_neg (by omega)]
  rfl

/-- A control character is read from its code of four hexadecimal digits. -/
theorem run_code {c : Char} (h : c < ' ') (purpose : Purpose) (read : List Char)
    (stack : List Frame) :
    run ⟨.text purpose read .none, stack⟩
        ['\\', 'u', '0', '0', hexDigit (c.toNat / 16), hexDigit c.toNat] =
      some ⟨.text purpose (c :: read) .none, stack⟩ := by
  have hlt : c.toNat < 32 := h
  have hcode :
      (((0 * 16 + 0) * 16 + 0) * 16 + c.toNat / 16 % 16) * 16 + c.toNat % 16 = c.toNat := by
    omega
  have h0 : hexValue? '0' = some 0 := by decide
  have hstart : run ⟨.text purpose read .none, stack⟩ ['\\', 'u'] =
      some ⟨.text purpose read (.hex 4 0 none), stack⟩ := rfl
  have hlast : step ⟨.text purpose read (.hex 1 (((0 * 16 + 0) * 16 + 0) * 16 + c.toNat / 16 % 16)
      none), stack⟩ (hexDigit c.toNat) = some ⟨.text purpose (c :: read) .none, stack⟩ := by
    simp only [step, stepText, hexValue?_hexDigit, Option.bind_some, hcode, Nat.le_refl, if_true,
      stepCode, Char.ofNat_toNat]
    rw [if_neg (by omega), if_neg (by omega)]
  calc run ⟨.text purpose read .none, stack⟩
        (['\\', 'u'] ++ ['0', '0', hexDigit (c.toNat / 16), hexDigit c.toNat])
      = run ⟨.text purpose read (.hex 4 0 none), stack⟩
        ['0', '0', hexDigit (c.toNat / 16), hexDigit c.toNat] := run_append hstart _
    _ = some ⟨.text purpose (c :: read) .none, stack⟩ := by
      rw [run_cons (step_hex h0 ..), run_cons (step_hex h0 ..),
        run_cons (step_hex (hexValue?_hexDigit _) ..), run_cons hlast]
      rfl

/-- A character that is escaped, or stands for itself, is read as what it was. -/
theorem run_escape (c : Char) (purpose : Purpose) (read : List Char) (stack : List Frame) :
    run ⟨.text purpose read .none, stack⟩ (escape c) =
      some ⟨.text purpose (c :: read) .none, stack⟩ := by
  unfold escape
  split
  -- The characters with an escape of their own.
  iterate 7 rfl
  · rename_i hquote hslash _ _ _ _ _
    split
    · rename_i h
      exact run_code h purpose read stack
    · rename_i h
      simp only [run, step, stepText]
      rw [if_neg hquote, if_neg hslash, if_neg h]

theorem run_escapes (cs : List Char) (purpose : Purpose) (read : List Char) (stack : List Frame) :
    run ⟨.text purpose read .none, stack⟩ (cs.flatMap escape) =
      some ⟨.text purpose (cs.reverse ++ read) .none, stack⟩ := by
  induction cs generalizing read with
  | nil => rfl
  | cons c cs ih =>
    rw [List.flatMap_cons, run_append (run_escape c purpose read stack), ih, List.reverse_cons,
      List.append_assoc]
    rfl

/-- After its opening quote, a text literal is read as its text. -/
theorem run_quote (s : String) (purpose : Purpose) (stack : List Frame) :
    run ⟨.text purpose [] .none, stack⟩ (s.toList.flatMap escape ++ ['"']) =
      some (closeText purpose s.toList.reverse stack) := by
  rw [run_append (run_escapes s.toList purpose [] stack), List.append_nil]
  rfl

theorem closeText_value (s : String) (stack : List Frame) :
    closeText .value s.toList.reverse stack = ⟨.after (.text s), stack⟩ := by
  simp [closeText]

theorem closeText_key (s : String) (fields : List (String × Json)) (stack : List Frame) :
    closeText (.key fields) s.toList.reverse stack = ⟨.colon fields s, stack⟩ := by
  simp [closeText]

/-! ## Values -/

/-- A state of the reader in which a value may begin. -/
inductive Awaits (stack : List Frame) : Reader → Prop where
  | value : Awaits stack ⟨.value, stack⟩
  | firstItem : Awaits stack ⟨.firstItem, stack⟩

/-- A state of the reader in which a value has been read, unless it goes on with the next
character. -/
inductive Ends (v : Json) (stack : List Frame) : Reader → Prop where
  | after : Ends v stack ⟨.after v, stack⟩
  | word (read : List Char) (h : wordValue? read = some v) : Ends v stack ⟨.word read, stack⟩
  | number (read : List Char) (h : readNumber? read.reverse = some v) :
    Ends v stack ⟨.number read, stack⟩

/-- A character that no word and no number goes on with. -/
def isCloser (c : Char) : Bool :=
  !c.isLower && !isNumeric c

theorem Awaits.step {stack : List Frame} {r : Reader} (h : Awaits stack r) {c : Char}
    (blank : isBlank c = false) (bracket : c ≠ ']') : r.step c = stepValue stack c := by
  cases h with
  | value => simp [Reader.step, blank]
  | firstItem => simp [Reader.step, blank, bracket]

/-- A reader that stays where it is at a blank does so at all of them. -/
theorem run_blanks {r : Reader} (stays : ∀ c, isBlank c = true → r.step c = some r)
    {cs : List Char} (blank : ∀ c ∈ cs, isBlank c = true) : r.run cs = some r := by
  induction cs with
  | nil => rfl
  | cons c cs ih =>
    rw [List.forall_mem_cons] at blank
    rw [run_cons (stays c blank.1), ih blank.2]

theorem Awaits.stays {stack : List Frame} {r : Reader} (h : Awaits stack r) (c : Char)
    (blank : isBlank c = true) : r.step c = some r := by
  cases h <;> simp [Reader.step, blank]

theorem Ends.step {v : Json} {stack : List Frame} {r : Reader} (h : Ends v stack r) {c : Char}
    (closer : isCloser c = true) : r.step c = stepAfter v stack c := by
  simp only [isCloser, Bool.and_eq_true, Bool.not_eq_true'] at closer
  cases h with
  | after => rfl
  | word read hread => simp [Reader.step, closer.1, hread]
  | number read hread => simp [Reader.step, closer.2, hread]

theorem Ends.finish {v : Json} {r : Reader} (h : Ends v [] r) : r.finish = some v := by
  cases h with
  | after => rfl
  | word read hread => exact hread
  | number read hread => exact hread

theorem isCloser_of_isBlank {c : Char} (h : isBlank c = true) : isCloser c = true := by
  simp only [isBlank, Bool.or_eq_true, decide_eq_true_eq] at h
  obtain ((rfl | rfl) | rfl) | rfl := h <;> rfl

theorem Ends.run_blanks {v : Json} {stack : List Frame} {r : Reader} (h : Ends v stack r)
    {cs : List Char} (blank : ∀ c ∈ cs, isBlank c = true) :
    ∃ r', r.run cs = some r' ∧ Ends v stack r' := by
  induction cs generalizing r with
  | nil => exact ⟨r, rfl, h⟩
  | cons c cs ih =>
    rw [List.forall_mem_cons] at blank
    have hstep : r.step c = some ⟨.after v, stack⟩ := by
      rw [h.step (isCloser_of_isBlank blank.1)]
      unfold stepAfter
      rw [if_pos blank.1]
    rw [run_cons hstep]
    exact ih .after blank.2

theorem run_digits {cs : List Char} (numeric : ∀ c ∈ cs, isNumeric c = true) (read : List Char)
    (stack : List Frame) :
    run ⟨.number read, stack⟩ cs = some ⟨.number (cs.reverse ++ read), stack⟩ := by
  induction cs generalizing read with
  | nil => rfl
  | cons c cs ih =>
    rw [List.forall_mem_cons] at numeric
    have hstep : step ⟨.number read, stack⟩ c = some ⟨.number (c :: read), stack⟩ := by
      simp [Reader.step, numeric.1]
    rw [run_cons hstep, ih numeric.2, List.reverse_cons, List.append_assoc]
    rfl

/-- A number is read with its last character. -/
theorem run_number {cs : List Char} {v : Json} (hread : readNumber? cs = some v)
    {stack : List Frame} {r : Reader} (h : Awaits stack r) :
    ∃ r', r.run cs = some r' ∧ Ends v stack r' := by
  obtain ⟨hnumeric, c, rest, rfl, hc⟩ := numeric_of_readNumber? hread
  rw [List.forall_mem_cons] at hnumeric
  have hstep : r.step c = some ⟨.number [c], stack⟩ := by
    have hplain : isBlank c = false ∧ c ≠ ']' ∧ c ≠ '"' ∧ c ≠ '[' ∧ c ≠ '\x7b' := by
      obtain rfl | hdigit := hc
      · decide
      · refine ⟨?_, ?_, ?_, ?_, ?_⟩
        · by_contra hblank
          rw [Bool.not_eq_false] at hblank
          simp only [isBlank, Bool.or_eq_true, decide_eq_true_eq] at hblank
          obtain ((rfl | rfl) | rfl) | rfl := hblank <;> exact absurd hdigit (by decide)
        all_goals
          rintro rfl
          exact absurd hdigit (by decide)
    obtain ⟨hblank, hclose, hquote, hopen, hbrace⟩ := hplain
    rw [h.step hblank hclose, stepValue, if_neg hquote, if_neg hopen, if_neg hbrace, if_pos hc]
  refine ⟨⟨.number (rest.reverse ++ [c]), stack⟩, ?_, .number _ ?_⟩
  · rw [run_cons hstep]
    exact run_digits hnumeric.2 [c] stack
  · rw [List.reverse_append, List.reverse_reverse]
    exact hread

/-- A word is read with its last letter. -/
theorem run_word {cs : List Char} {v : Json} (hread : wordValue? cs.reverse = some v)
    {stack : List Frame} {r : Reader} (h : Awaits stack r) :
    ∃ r', r.run cs = some r' ∧ Ends v stack r' := by
  unfold wordValue? at hread
  rw [List.reverse_reverse] at hread
  split at hread
  -- Which of the words it is, the reader takes it from either state.
  iterate 3
    cases hread
    cases h <;> exact ⟨_, rfl, .word _ rfl⟩
  cases hread

/-! ## Fields -/

/-- A state of the reader in which the key of a field may begin, after some fields. -/
inductive AwaitsKey (outer : List Frame) : List (String × Json) → Reader → Prop where
  | firstKey : AwaitsKey outer [] ⟨.firstKey, .object [] "" :: outer⟩
  | nextKey (fields : List (String × Json)) : AwaitsKey outer fields ⟨.nextKey fields, outer⟩

/-- A key and its colon, with blanks before and after them. -/
theorem AwaitsKey.run {outer : List Frame} {fields : List (String × Json)} {r : Reader}
    (h : AwaitsKey outer fields r) {line colon : List Char}
    (hline : ∀ c ∈ line, isBlank c = true) (hcolon : ∀ c ∈ colon, isBlank c = true) (key : String)
    (rest : List Char) :
    r.run (line ++ (quote key ++ (':' :: (colon ++ rest)))) =
      Reader.run ⟨.value, .object fields key :: outer⟩ rest := by
  have hstays : ∀ c, isBlank c = true → r.step c = some r := by
    intro c hc
    cases h <;> simp [Reader.step, hc]
  have hopen : r.step '"' = some ⟨.text (.key fields) [] .none, outer⟩ := by
    cases h <;> rfl
  have hquote : r.run (quote key) = some ⟨.colon fields key, outer⟩ := by
    rw [quote, run_cons hopen, run_quote, closeText_key]
  have hvalue : Awaits (.object fields key :: outer) ⟨.value, .object fields key :: outer⟩ := .value
  calc r.run (line ++ (quote key ++ (':' :: (colon ++ rest))))
      = r.run (quote key ++ (':' :: (colon ++ rest))) := run_append (run_blanks hstays hline) _
    _ = Reader.run ⟨.colon fields key, outer⟩ (':' :: (colon ++ rest)) := run_append hquote _
    _ = Reader.run ⟨.value, .object fields key :: outer⟩ (colon ++ rest) := run_cons rfl _
    _ = Reader.run ⟨.value, .object fields key :: outer⟩ rest :=
      run_append (run_blanks hvalue.stays hcolon) _

/-! ## Containers -/

theorem enter?_of_lt {stack : List Frame} (h : stack.length < maxDepth) (mode : Mode)
    (frames : List Frame) : enter? mode stack frames = some ⟨mode, frames⟩ :=
  if_pos h

/-- What closes a container: the blanks before its bracket, and the bracket. -/
theorem Ends.run_close {v w : Json} {stack outer : List Frame} {r : Reader} (h : Ends v stack r)
    {line : List Char} (hline : ∀ c ∈ line, isBlank c = true) {c : Char}
    (closer : isCloser c = true) (hclose : stepAfter v stack c = some ⟨.after w, outer⟩) :
    r.run (line ++ [c]) = some ⟨.after w, outer⟩ := by
  obtain ⟨r', hrun, hends⟩ := h.run_blanks hline
  rw [run_append hrun, run_cons ((hends.step closer).trans hclose)]
  rfl

variable {sp : Spacing}

mutual

/-- A written value is read as its echo. -/
theorem run_write (blank : sp.Blank) (v : Json) (depth : Nat) {w : Json} (he : v.echo = some w)
    {stack : List Frame} {r : Reader} (room : stack.length + v.height ≤ maxDepth)
    (h : Awaits stack r) : ∃ r', r.run (write sp depth v) = some r' ∧ Ends w stack r' := by
  match v with
  | .null =>
    cases he
    exact run_word rfl h
  | .bool true =>
    cases he
    exact run_word rfl h
  | .bool false =>
    cases he
    exact run_word rfl h
  | .int n =>
    rw [write]
    exact run_number he h
  | .float x =>
    rw [write]
    rw [echo] at he
    split at he
    · exact run_number he h
    · rename_i hx
      cases he
      rw [floatText, if_neg hx]
      exact run_word rfl h
  | .text s =>
    cases he
    refine ⟨_, ?_, .after⟩
    rw [write, quote, run_cons (h.step rfl (by decide)), ← closeText_value]
    exact run_quote s .value stack
  | .array [] =>
    cases he
    rw [height, heightItems] at room
    have hopen : r.step '[' = some ⟨.firstItem, .array [] :: stack⟩ := by
      rw [h.step rfl (by decide)]
      exact enter?_of_lt (by omega) ..
    refine ⟨⟨.after (.array []), stack⟩, ?_, .after⟩
    rw [write, run_cons hopen]
    rfl
  | .array (v :: items) =>
    rw [echo, echoItems] at he
    simp only [Option.map_eq_some_iff, Option.bind_eq_some_iff] at he
    obtain ⟨_, ⟨w, hw, ws, hws, rfl⟩, rfl⟩ := he
    rw [height, heightItems] at room
    have hopen : r.step '[' = some ⟨.firstItem, .array [] :: stack⟩ := by
      rw [h.step rfl (by decide)]
      exact enter?_of_lt (by omega) ..
    have hfirst : Awaits (.array [] :: stack) ⟨.firstItem, .array [] :: stack⟩ := .firstItem
    obtain ⟨r₁, hrun₁, hends₁⟩ := run_write blank v (depth + 1) hw
      (by rw [List.length_cons]; omega) hfirst
    obtain ⟨r₂, last, before, hrun₂, hends₂, hall⟩ := run_writeItems blank items (depth + 1) hws
      (by omega) hends₁
    refine ⟨⟨.after (.array (last :: before).reverse), stack⟩, ?_, ?_⟩
    · rw [write, run_cons hopen, run_append (run_blanks hfirst.stays (blank.line _)),
        run_append hrun₁, run_append hrun₂, hends₂.run_close (blank.line _) rfl rfl]
    · rw [hall, List.reverse_append, List.reverse_reverse]
      exact .after
  | .object [] =>
    cases he
    rw [height, heightFields] at room
    have hopen : r.step '\x7b' = some ⟨.firstKey, .object [] "" :: stack⟩ := by
      rw [h.step rfl (by decide)]
      exact enter?_of_lt (by omega) ..
    refine ⟨⟨.after (.object []), stack⟩, ?_, .after⟩
    rw [write, run_cons hopen]
    rfl
  | .object ((key, v) :: fields) =>
    rw [echo, echoFields] at he
    simp only [Option.map_eq_some_iff, Option.bind_eq_some_iff] at he
    obtain ⟨_, ⟨w, hw, ws, hws, rfl⟩, rfl⟩ := he
    rw [height, heightFields] at room
    have hopen : r.step '\x7b' = some ⟨.firstKey, .object [] "" :: stack⟩ := by
      rw [h.step rfl (by decide)]
      exact enter?_of_lt (by omega) ..
    obtain ⟨r₁, hrun₁, hends₁⟩ := run_write blank v (depth + 1) hw
      (by rw [List.length_cons]; omega) (.value : Awaits (.object [] key :: stack) _)
    obtain ⟨r₂, last, lastKey, before, hrun₂, hends₂, hall⟩ :=
      run_writeFields blank fields (depth + 1) hws (by omega) hends₁
    refine ⟨⟨.after (.object ((lastKey, last) :: before).reverse), stack⟩, ?_, ?_⟩
    · rw [write, run_cons hopen, AwaitsKey.firstKey.run (blank.line _) blank.colon,
        run_append hrun₁, run_append hrun₂, hends₂.run_close (blank.line _) rfl rfl]
    · rw [hall, List.reverse_append, List.reverse_reverse]
      exact .after
termination_by structural v

/-- After an item, the written items that follow it are read as their echoes. -/
theorem run_writeItems (blank : sp.Blank) (items : List Json) (depth : Nat) {ws : List Json}
    (he : echoItems items = some ws) {v : Json} {before : List Json} {outer : List Frame}
    {r : Reader}
    (room : outer.length + 1 + heightItems items ≤ maxDepth)
    (h : Ends v (.array before :: outer) r) :
    ∃ r' last before', r.run (writeItems sp depth items) = some r' ∧
      Ends last (.array before' :: outer) r' ∧ last :: before' = ws.reverse ++ v :: before := by
  match items with
  | [] =>
    cases he
    exact ⟨r, v, before, rfl, h, rfl⟩
  | u :: items =>
    rw [echoItems] at he
    simp only [Option.map_eq_some_iff, Option.bind_eq_some_iff] at he
    obtain ⟨w, hw, ws, hws, rfl⟩ := he
    rw [heightItems] at room
    have hcomma : r.step ',' = some ⟨.value, .array (v :: before) :: outer⟩ := h.step rfl
    have hvalue : Awaits (.array (v :: before) :: outer) ⟨.value, .array (v :: before) :: outer⟩ :=
      .value
    obtain ⟨r₁, hrun₁, hends₁⟩ := run_write blank u depth hw
      (by rw [List.length_cons]; omega) hvalue
    obtain ⟨r₂, last, before', hrun₂, hends₂, hall⟩ := run_writeItems blank items depth hws
      (by omega) hends₁
    refine ⟨r₂, last, before', ?_, hends₂, ?_⟩
    · rw [writeItems, run_cons hcomma, run_append (run_blanks hvalue.stays (blank.line _)),
        run_append hrun₁, hrun₂]
    · rw [hall, List.reverse_cons, List.append_assoc]
      rfl
termination_by structural items

/-- After a field, the written fields that follow it are read as their echoes. -/
theorem run_writeFields (blank : sp.Blank) (fields : List (String × Json)) (depth : Nat)
    {ws : List (String × Json)} (he : echoFields fields = some ws) {key : String} {v : Json}
    {before : List (String × Json)} {outer : List Frame} {r : Reader}
    (room : outer.length + 1 + heightFields fields ≤ maxDepth)
    (h : Ends v (.object before key :: outer) r) :
    ∃ r' last lastKey before', r.run (writeFields sp depth fields) = some r' ∧
      Ends last (.object before' lastKey :: outer) r' ∧
      (lastKey, last) :: before' = ws.reverse ++ (key, v) :: before := by
  match fields with
  | [] =>
    cases he
    exact ⟨r, v, key, before, rfl, h, rfl⟩
  | (next, u) :: fields =>
    rw [echoFields] at he
    simp only [Option.map_eq_some_iff, Option.bind_eq_some_iff] at he
    obtain ⟨w, hw, ws, hws, rfl⟩ := he
    rw [heightFields] at room
    have hcomma : r.step ',' = some ⟨.nextKey ((key, v) :: before), outer⟩ := h.step rfl
    obtain ⟨r₁, hrun₁, hends₁⟩ := run_write blank u depth hw
      (by rw [List.length_cons]; omega)
      (.value : Awaits (.object ((key, v) :: before) next :: outer) _)
    obtain ⟨r₂, last, lastKey, before', hrun₂, hends₂, hall⟩ :=
      run_writeFields blank fields depth hws (by omega) hends₁
    refine ⟨r₂, last, lastKey, before', ?_, hends₂, ?_⟩
    · rw [writeFields, run_cons hcomma, (AwaitsKey.nextKey _).run (blank.line _) blank.colon,
        run_append hrun₁, hrun₂]
    · rw [hall, List.reverse_cons, List.append_assoc]
      rfl
termination_by structural fields

end

end Reader

/-! ## Whole texts -/

/-- A written value that does not nest too deep is read as its echo. -/
theorem ofChars?_write {sp : Spacing} (blank : sp.Blank) {v w : Json} (he : v.echo = some w)
    (room : v.height ≤ maxDepth) : ofChars? (write sp 0 v) = some w := by
  obtain ⟨r, hrun, hends⟩ := Reader.run_write blank v 0 he (by simpa using room)
    (.value : Reader.Awaits [] _)
  rw [ofChars?]
  have hstart : Reader.start.run (write sp 0 v) = some r := hrun
  rw [hstart, Option.bind_some, hends.finish]

/-- The octets of a value written without blanks are read as its echo. -/
theorem ofBytes?_compact {v w : Json} (he : v.echo = some w) (room : v.height ≤ maxDepth) :
    ofBytes? v.compact.toUTF8 = some w := by
  have hutf8 : String.fromUTF8? v.compact.toUTF8 = some v.compact := dif_pos v.compact.isValidUTF8
  rw [ofBytes?, hutf8, Option.bind_some, ofString?, compact, String.toList_ofList]
  exact ofChars?_write Spacing.none_blank he room

end ChannelGateway.Json
