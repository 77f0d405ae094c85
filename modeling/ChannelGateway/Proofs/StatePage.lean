import ChannelGateway.Http.Server
import ChannelGateway.Proofs.Agreement

/-!
# The state page shows what there is, and nothing else

Two encodings are nested in the page: texts are escaped as JSON literals in the listing, and then
title and listing are escaped for HTML. `Page.unescape` undoes the second, `Json.ofString?` the
first, and `Page.between` cuts the two parts out of the page again by the tags around them. What is
inserted holds no angle bracket, so the tags are found where the template has them, whatever title
and records are; and every ampersand in the page begins one of the three references.

The listing and the list that is served as JSON are written from one value with two spacings, and a
value is read as its echo with either.

Results:
* `Page.unescape_escape`: undoing the escapes gives the text back.
* `Page.between_title`, `Page.between_pre`: the parts are found in the page.
* `Page.listing_denotes`, `Page.list_denotes`: the listing and the list denote the same array.
* **`Page.state_page`**: the promises of the page, for every title and all records.
-/

namespace ChannelGateway

namespace Page

/-! ## The template -/

/-- The page before the title. -/
def opening : String :=
  "\n<!DOCTYPE html>\n<html>\n<head>\n    <title>"

/-- The page between the title and the listing. -/
def middle : String :=
  "</title>\n</head>\n<body>\n    <p>[OK] /services/actuators/phidgets<p>\n    <pre>\n"

/-- The page after the listing. -/
def closing : String :=
  "\n    </pre>\n</body>\n</html>"

/-- The page is the template with the escaped title and the escaped listing. -/
theorem render_eq (title : String) (statuses : List Status) :
    render title statuses =
      opening ++ (escape title ++ (middle ++ (escape (listing statuses) ++ closing))) := by
  unfold render opening middle closing
  simp only [String.join, List.foldl_cons, List.foldl_nil, String.empty_append, String.append_assoc]

/-! ## Escaping -/

/-- The references that stand for characters, without their ampersand. -/
def references : List (List Char) :=
  [['a', 'm', 'p', ';'], ['l', 't', ';'], ['g', 't', ';']]

/-- Read the references of a text as the characters that they stand for. -/
def dereference : List Char → List Char
  | '&' :: 'a' :: 'm' :: 'p' :: ';' :: rest => '&' :: dereference rest
  | '&' :: 'l' :: 't' :: ';' :: rest => '<' :: dereference rest
  | '&' :: 'g' :: 't' :: ';' :: rest => '>' :: dereference rest
  | c :: rest => c :: dereference rest
  | [] => []

/-- Undo the escapes of a text. -/
def unescape (s : String) : String :=
  String.ofList (dereference s.toList)

theorem escapeChar_cases (c : Char) :
    (c = '&' ∧ escapeChar c = '&' :: ['a', 'm', 'p', ';']) ∨
      (c = '<' ∧ escapeChar c = '&' :: ['l', 't', ';']) ∨
      (c = '>' ∧ escapeChar c = '&' :: ['g', 't', ';']) ∨
      (c ≠ '&' ∧ c ≠ '<' ∧ c ≠ '>' ∧ escapeChar c = [c]) := by
  unfold escapeChar
  split
  · exact .inl ⟨rfl, rfl⟩
  · exact .inr (.inl ⟨rfl, rfl⟩)
  · exact .inr (.inr (.inl ⟨rfl, rfl⟩))
  · rename_i hamp hlt hgt
    exact .inr (.inr (.inr ⟨hamp, hlt, hgt, rfl⟩))

theorem dereference_cons {c : Char} (hc : c ≠ '&') (rest : List Char) :
    dereference (c :: rest) = c :: dereference rest := by
  rw [dereference]
  all_goals
    rintro more rfl
    exact absurd rfl hc

theorem dereference_flatMap (cs : List Char) : dereference (cs.flatMap escapeChar) = cs := by
  induction cs with
  | nil => rfl
  | cons c rest ih =>
    rw [List.flatMap_cons]
    rcases escapeChar_cases c with ⟨rfl, he⟩ | ⟨rfl, he⟩ | ⟨rfl, he⟩ | ⟨hamp, -, -, he⟩
    · rw [he]
      exact congrArg _ ih
    · rw [he]
      exact congrArg _ ih
    · rw [he]
      exact congrArg _ ih
    · rw [he, List.singleton_append, dereference_cons hamp, ih]

theorem toList_escape (s : String) : (escape s).toList = s.toList.flatMap escapeChar :=
  String.toList_ofList

/-- **Undoing the escapes gives the text back.** -/
theorem unescape_escape (s : String) : unescape (escape s) = s := by
  rw [unescape, toList_escape, dereference_flatMap, String.ofList_toList]

/-- A text that holds a reference already is escaped once more. -/
example : escape "</pre>&lt;" = "&lt;/pre&gt;&amp;lt;" ∧
    unescape "&lt;/pre&gt;&amp;lt;" = "</pre>&lt;" := by
  decide +kernel

/-- An escaped text holds no angle bracket. -/
theorem plain_escape (s : String) : '<' ∉ (escape s).toList ∧ '>' ∉ (escape s).toList := by
  have hplain : ∀ c, '<' ∉ escapeChar c ∧ '>' ∉ escapeChar c := by
    intro c
    rcases escapeChar_cases c with ⟨-, he⟩ | ⟨-, he⟩ | ⟨-, he⟩ | ⟨-, hlt, hgt, he⟩
    · rw [he]
      decide
    · rw [he]
      decide
    · rw [he]
      decide
    · rw [he]
      exact ⟨by simpa using Ne.symm hlt, by simpa using Ne.symm hgt⟩
  rw [toList_escape]
  constructor
  · intro h
    obtain ⟨c, -, hc⟩ := List.mem_flatMap.mp h
    exact (hplain c).1 hc
  · intro h
    obtain ⟨c, -, hc⟩ := List.mem_flatMap.mp h
    exact (hplain c).2 hc

/-- Every ampersand of a text begins a reference. -/
def Referenced (cs : List Char) : Prop :=
  ∀ front rest, cs = front ++ '&' :: rest → ∃ reference ∈ references, reference <+: rest

theorem Referenced.of_notMem {cs : List Char} (h : '&' ∉ cs) : Referenced cs := by
  rintro front rest rfl
  exact absurd (List.mem_append_right front List.mem_cons_self) h

theorem Referenced.append {cs ds : List Char} (h : Referenced cs) (h' : Referenced ds) :
    Referenced (cs ++ ds) := by
  intro front rest he
  rcases List.append_eq_append_iff.mp he with ⟨more, hfront, hds⟩ | ⟨more, hcs, hrest⟩
  · exact h' more rest hds
  · cases more with
    | nil => exact h' [] rest (by simpa using hrest.symm)
    | cons c more =>
      obtain ⟨rfl, rfl⟩ := List.cons.inj hrest
      obtain ⟨reference, hmem, hstart⟩ := h front more hcs
      exact ⟨reference, hmem, hstart.trans (List.prefix_append ..)⟩

/-- A reference holds no ampersand of its own. -/
theorem Referenced.of_reference {reference : List Char} (h : reference ∈ references) :
    Referenced ('&' :: reference) := by
  have hnone : ∀ r ∈ references, '&' ∉ r := by decide
  intro front rest he
  cases front with
  | nil =>
    obtain rfl := (List.cons.inj he).2
    exact ⟨reference, h, List.prefix_refl _⟩
  | cons c front =>
    obtain ⟨-, he⟩ := List.cons.inj he
    have hmem : '&' ∈ reference := he ▸ List.mem_append_right front List.mem_cons_self
    exact absurd hmem (hnone reference h)

/-- **Every ampersand of an escaped text begins a reference.** -/
theorem referenced_escape (s : String) : Referenced (escape s).toList := by
  have hchar : ∀ c, Referenced (escapeChar c) := by
    intro c
    rcases escapeChar_cases c with ⟨-, he⟩ | ⟨-, he⟩ | ⟨-, he⟩ | ⟨hamp, -, -, he⟩
    · exact he ▸ .of_reference (by decide)
    · exact he ▸ .of_reference (by decide)
    · exact he ▸ .of_reference (by decide)
    · exact he ▸ .of_notMem (by simpa using Ne.symm hamp)
  rw [toList_escape]
  induction s.toList with
  | nil => exact .of_notMem List.not_mem_nil
  | cons c rest ih => exact (hchar c).append ih

/-! ## The parts of a page -/

/-- What follows the first place of a text where a mark stands. -/
def following (mark : List Char) : List Char → Option (List Char)
  | [] => none
  | c :: rest =>
    if mark.isPrefixOf (c :: rest) then some ((c :: rest).drop mark.length)
    else following mark rest

/-- What precedes the first place of a text where a mark stands. -/
def preceding (mark : List Char) : List Char → Option (List Char)
  | [] => none
  | c :: rest =>
    if mark.isPrefixOf (c :: rest) then some [] else (preceding mark rest).map (c :: ·)

/-- What stands between a mark and the next place of another one. -/
def between (start stop page : String) : Option String :=
  ((following start.toList page.toList).bind (preceding stop.toList)).map String.ofList

/-- A mark does not stand where its first character does not. -/
theorem following_skip {c : Char} {mark text : List Char} (h : c ∉ text) (rest : List Char) :
    following (c :: mark) (text ++ rest) = following (c :: mark) rest := by
  induction text with
  | nil => rfl
  | cons d text ih =>
    have hd := List.ne_of_not_mem_cons h
    have htext := List.not_mem_of_not_mem_cons h
    rw [List.cons_append, following, if_neg, ih htext]
    simp [hd]

/-- A mark with a bracket stands first after a text without one. -/
theorem preceding_mark (blanks : List Char) {tail text : List Char} (hblanks : '<' ∉ blanks)
    (htext : '<' ∉ text) (rest : List Char) :
    preceding (blanks ++ '<' :: tail) (text ++ (blanks ++ '<' :: tail ++ rest)) = some text := by
  induction text with
  | nil =>
    have hstart : (blanks ++ '<' :: tail).isPrefixOf (blanks ++ '<' :: tail ++ rest) = true := by
      simp
    rw [List.nil_append]
    generalize blanks ++ '<' :: tail ++ rest = page at hstart ⊢
    cases page with
    | nil => simp at hstart
    | cons c page => rw [preceding, if_pos hstart]
  | cons c text ih =>
    have htext' := List.not_mem_of_not_mem_cons htext
    rw [List.cons_append, preceding, if_neg, ih htext']
    · rfl
    · -- the first bracket of the rest stands further on than that of the mark
      intro hstart
      obtain ⟨more, hmore⟩ := List.isPrefixOf_iff_prefix.mp hstart
      have hmark : (blanks ++ '<' :: tail ++ more).idxOf '<' = blanks.length := by
        rw [List.append_assoc, List.idxOf_append_of_notMem hblanks]
        simp
      have hpage : (c :: (text ++ (blanks ++ '<' :: tail ++ rest))).idxOf '<' =
          (c :: text).length + blanks.length := by
        rw [← List.cons_append, List.idxOf_append_of_notMem htext, List.append_assoc,
          List.idxOf_append_of_notMem hblanks]
        simp
      rw [hmore, hpage, List.length_cons] at hmark
      omega

/-- **The title is found in the page.** -/
theorem between_title (title : String) (statuses : List Status) :
    between "<title>" "</title>" (render title statuses) = some (escape title) := by
  have hstart : ∀ rest, following "<title>".toList (opening.toList ++ rest) = some rest :=
    fun _ => rfl
  have hstop :
      ∀ rest, preceding "</title>".toList ((escape title).toList ++ (middle.toList ++ rest)) =
        some (escape title).toList := fun rest =>
    preceding_mark [] List.not_mem_nil (plain_escape title).1 _
  rw [between, render_eq, String.toList_append, hstart, Option.bind_some, String.toList_append,
    String.toList_append, hstop, Option.map_some, String.ofList_toList]

/-- **The listing is found in the page.** -/
theorem between_pre (title : String) (statuses : List Status) :
    between "<pre>\n" "\n    </pre>" (render title statuses) =
      some (escape (listing statuses)) := by
  have hopening : ∀ rest, following "<pre>\n".toList (opening.toList ++ rest) =
      following "<pre>\n".toList rest := fun _ => rfl
  have htitle : ∀ rest, following "<pre>\n".toList ((escape title).toList ++ rest) =
      following "<pre>\n".toList rest := following_skip (plain_escape title).1
  have hmiddle : ∀ rest, following "<pre>\n".toList (middle.toList ++ rest) = some rest :=
    fun _ => rfl
  have hstop : preceding "\n    </pre>".toList
      ((escape (listing statuses)).toList ++ closing.toList) =
        some (escape (listing statuses)).toList :=
    preceding_mark "\n    ".toList (by decide) (plain_escape (listing statuses)).1 _
  rw [between, render_eq, String.toList_append, hopening, String.toList_append, htitle,
    String.toList_append, hmiddle, Option.bind_some, String.toList_append, hstop, Option.map_some,
    String.ofList_toList]

end Page

/-! ## What the listing denotes -/

/-- What is read of a reading: a state, a text, or the number that its text is read as. A number
that is not finite is read as `null`. -/
def Reading.shown : Reading → Json
  | state b => .bool b
  | voltage volts => ((Json.reread? volts).map Json.float).getD .null
  | unavailable reason => .text reason

/-- What is read of a status record. -/
def Status.shown (s : Status) : Json :=
  .object [("name", .text s.name), ("type", .text s.kind.label),
    (s.reading.field.1, s.reading.shown)]

/-- The value of a reading is read as it is shown. -/
theorem Reading.echo_field (r : Reading) : r.field.2.echo = some r.shown := by
  cases r with
  | state b => rfl
  | unavailable reason => rfl
  | voltage volts =>
    by_cases h : volts.isFinite = true
    · obtain ⟨y, hy, hecho⟩ := Json.exists_reread? h
      rw [shown, hy]
      exact hecho
    · have hecho : Json.echo (.float volts) = some .null := by rw [Json.echo, if_neg h]
      have hread : Json.ofString? (Json.float volts).compact = some .null := by
        rw [Json.ofString?, Json.compact, String.toList_ofList]
        exact Json.ofChars?_write Json.Spacing.none_blank hecho (Nat.zero_le _)
      have hnone : Json.reread? volts = none := by
        rw [Json.reread?, hread]
        rfl
      rw [shown, hnone]
      exact hecho

theorem Status.echo_toJson (s : Status) : s.toJson.echo = some s.shown := by
  have htext : ∀ text : String, Json.echo (.text text) = some (.text text) := fun _ => rfl
  have hfields := Json.echoFields_cons "name" (htext s.name)
    (Json.echoFields_cons "type" (htext s.kind.label)
      (Json.echoFields_cons s.reading.field.1 s.reading.echo_field Json.echoFields_nil))
  have hfield : (s.reading.field.1, s.reading.field.2) = s.reading.field := rfl
  rw [hfield] at hfields
  rw [toJson, Json.echo, hfields]
  rfl

theorem Status.height_toJson (s : Status) : s.toJson.height = 1 := by
  cases h : s.reading <;> simp [toJson, h, Reading.field, Json.height, Json.heightFields]

/-- The array of status records is read as the array of what is shown of each. -/
theorem Status.echo_listToJson (statuses : List Status) :
    (listToJson statuses).echo = some (.array (statuses.map Status.shown)) := by
  have hitems : Json.echoItems (statuses.map toJson) = some (statuses.map shown) := by
    induction statuses with
    | nil => rw [List.map_nil, Json.echoItems, List.map_nil]
    | cons s rest ih =>
      rw [List.map_cons, Json.echoItems, s.echo_toJson, ih]
      rfl
  rw [listToJson, Json.echo, hitems]
  rfl

theorem Status.height_listToJson (statuses : List Status) :
    (listToJson statuses).height ≤ Json.maxDepth := by
  have hitems : Json.heightItems (statuses.map toJson) ≤ 1 := by
    induction statuses with
    | nil =>
      rw [List.map_nil, Json.heightItems]
      exact Nat.zero_le _
    | cons s rest ih =>
      rw [List.map_cons, Json.heightItems, s.height_toJson]
      exact Nat.max_le.mpr ⟨Nat.le_refl _, ih⟩
  rw [listToJson, Json.height]
  exact Nat.le_trans (Nat.succ_le_succ hitems) (by decide)

/-- A way of writing with lines puts nothing but blanks between the tokens. -/
theorem Json.Spacing.lines_blank : Spacing.lines.Blank where
  line depth c h := by
    rcases List.mem_cons.mp h with rfl | h
    · rfl
    · rw [List.eq_of_mem_replicate h]
      rfl
  colon c h := by
    rw [List.mem_singleton.mp h]
    rfl

namespace Page

/-- **The listing is read as the records**, in their order. -/
theorem listing_denotes (statuses : List Status) :
    Json.ofString? (listing statuses) = some (.array (statuses.map Status.shown)) := by
  rw [Json.ofString?, listing, Json.indented, String.toList_ofList]
  exact Json.ofChars?_write Json.Spacing.lines_blank (Status.echo_listToJson statuses)
    (Status.height_listToJson statuses)

/-- **The list that is served is read as the same records.** -/
theorem list_denotes (statuses : List Status) :
    Json.ofString? (Http.Response.json (Status.listToJson statuses)).body =
      some (.array (statuses.map Status.shown)) := by
  rw [Json.ofString?, Http.Response.json, Json.compact, String.toList_ofList]
  exact Json.ofChars?_write Json.Spacing.none_blank (Status.echo_listToJson statuses)
    (Status.height_listToJson statuses)

/-! ## The promises of the page -/

/-- What a page with a title and status records promises. -/
structure Shows (title : String) (statuses : List Status) (page : String) : Prop where
  /-- The page is the template around the escaped title and the escaped listing. -/
  layout : page =
    opening ++ (escape title ++ (middle ++ (escape (listing statuses) ++ closing)))
  /-- What is inserted holds no angle bracket, so those of the page are those of the template. -/
  plain : ∀ c, c = '<' ∨ c = '>' → c ∉ (escape title).toList ∧
      c ∉ (escape (listing statuses)).toList
  brackets : page.toList.filter (fun c => c = '<' ∨ c = '>') =
    (opening ++ (middle ++ closing)).toList.filter (fun c => c = '<' ∨ c = '>')
  /-- Every ampersand of the page begins a reference. -/
  ampersands : Referenced page.toList
  /-- The title is found in the page, and the listing. -/
  title_eq : (between "<title>" "</title>" page).map unescape = some title
  listing_eq : (between "<pre>\n" "\n    </pre>" page).map unescape = some (listing statuses)
  /-- The listing denotes the records in their order, as the list that is served as JSON does. -/
  denotes : Json.ofString? (listing statuses) = some (.array (statuses.map Status.shown))
  served : Json.ofString? (Http.Response.json (Status.listToJson statuses)).body =
    Json.ofString? (listing statuses)

theorem title_found (title : String) (statuses : List Status) :
    (between "<title>" "</title>" (render title statuses)).map unescape = some title := by
  rw [between_title, Option.map_some, unescape_escape]

theorem listing_found (title : String) (statuses : List Status) :
    (between "<pre>\n" "\n    </pre>" (render title statuses)).map unescape =
      some (listing statuses) := by
  rw [between_pre, Option.map_some, unescape_escape]

/-- The brackets of a page are those of the template. -/
theorem brackets_render (title : String) (statuses : List Status) :
    (render title statuses).toList.filter (fun c => c = '<' ∨ c = '>') =
      (opening ++ (middle ++ closing)).toList.filter (fun c => c = '<' ∨ c = '>') := by
  have hplain : ∀ s, (escape s).toList.filter (fun c => c = '<' ∨ c = '>') = [] := by
    intro s
    obtain ⟨hlt, hgt⟩ := plain_escape s
    refine List.filter_eq_nil_iff.mpr fun c hc hbracket => ?_
    rcases of_decide_eq_true hbracket with rfl | rfl
    · exact hlt hc
    · exact hgt hc
  rw [render_eq]
  simp only [String.toList_append, List.filter_append, hplain, List.nil_append]

/-- Every ampersand of a page begins a reference. -/
theorem referenced_render (title : String) (statuses : List Status) :
    Referenced (render title statuses).toList := by
  have hopening : Referenced opening.toList := .of_notMem (by decide)
  have hmiddle : Referenced middle.toList := .of_notMem (by decide)
  have hclosing : Referenced closing.toList := .of_notMem (by decide)
  rw [render_eq]
  simp only [String.toList_append]
  exact hopening.append ((referenced_escape title).append (hmiddle.append
    ((referenced_escape (listing statuses)).append hclosing)))

/-- **The state page is faithful, and nothing can be inserted into it.** For every title and all
records it keeps its promises, and two pages are the same only if their titles and their listings
are. -/
theorem state_page (title : String) (statuses : List Status) :
    Shows title statuses (render title statuses) ∧
      ∀ title' statuses', render title statuses = render title' statuses' ↔
        title = title' ∧ listing statuses = listing statuses' := by
  refine ⟨?_, fun title' statuses' => ⟨fun he => ?_, fun ⟨htitle, hlisting⟩ => ?_⟩⟩
  · exact
      { layout := render_eq title statuses
        plain := by
          rintro c (rfl | rfl)
          · exact ⟨(plain_escape title).1, (plain_escape (listing statuses)).1⟩
          · exact ⟨(plain_escape title).2, (plain_escape (listing statuses)).2⟩
        brackets := brackets_render title statuses
        ampersands := referenced_render title statuses
        title_eq := title_found title statuses
        listing_eq := listing_found title statuses
        denotes := listing_denotes statuses
        served := (list_denotes statuses).trans (listing_denotes statuses).symm }
  · have htitle := title_found title statuses
    have hlisting := listing_found title statuses
    rw [he, title_found] at htitle
    rw [he, listing_found] at hlisting
    exact ⟨(Option.some.inj htitle).symm, (Option.some.inj hlisting).symm⟩
  · rw [render_eq, render_eq, htitle, hlisting]

end Page

end ChannelGateway
