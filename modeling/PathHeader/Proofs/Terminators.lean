import PathHeader.Proofs.EditScript

/-! How the lines of a text end. A repair ends its own lines like the first line of the text, so
that a text in which every line feed stands behind a carriage return, or none does, stays so. -/
namespace PathHeader

/-- Every line that is ended in the text is ended by one and the same terminator. -/
def Text.EndsBy (style : Terminator) (t : Text) : Prop :=
  ∀ before after, t = before ++ '\n' :: after → Terminator.ofLine (before ++ ['\n']) = style

/-- Nothing at the end of the text joins with a terminator that is put behind it. -/
def Text.Open (t : Text) : Prop := ∀ c ∈ t.getLast?, c ≠ '\r' ∧ c ≠ '\n'

namespace Terminator

variable {line : Text}

theorem ofLine_newline (before : Text) :
    ofLine (before ++ ['\n']) = if before.getLast? = some '\r' then .crlf else .lf := by
  have crlf : ['\r', '\n'] <:+ before ++ ['\n'] ↔ before.getLast? = some '\r' := by
    rw [List.getLast?_eq_some_iff]
    constructor
    · rintro ⟨start, same⟩
      have cut : (start ++ ['\r']) ++ ['\n'] = before ++ ['\n'] := by
        rw [List.append_assoc]
        exact same
      exact ⟨start, (List.append_cancel_right cut).symm⟩
    · rintro ⟨start, rfl⟩
      exact ⟨start, by simp⟩
  have lf : ['\n'] <:+ before ++ ['\n'] := List.suffix_append before ['\n']
  simp only [ofLine, List.isSuffixOf_iff_suffix, crlf, lf, if_true]

theorem ofLine_append_text (opened : line.Open) (t : Terminator) : ofLine (line ++ t.text) = t := by
  cases t with
  | none =>
    rw [text, List.append_nil, ofLine_eq_none_iff]
    intro ended
    exact (opened '\n' ended).2 rfl
  | lf =>
    rw [text, ofLine_newline, if_neg]
    intro returned
    exact (opened '\r' returned).1 rfl
  | crlf =>
    have split : line ++ text .crlf = (line ++ ['\r']) ++ ['\n'] := by simp [text]
    rw [split, ofLine_newline, if_pos List.getLast?_concat]

theorem ofLine_text (t : Terminator) : ofLine t.text = t := by
  have empty : Text.Open [] := nofun
  exact ofLine_append_text empty t

theorem close_eq_self (ended : ofLine line ≠ .none) (ending : Terminator) :
    ending.close line = line := by
  rw [close, if_pos ((ofLine_ne_none_iff line).mp ended)]

end Terminator

namespace Text

variable {style : Terminator} {left right t : Text}

theorem endsBy_crlf_iff : EndsBy .crlf t ↔
    ∀ before after, t = before ++ '\n' :: after → before.getLast? = some '\r' := by
  simp [EndsBy, Terminator.ofLine_newline]

theorem endsBy_lf_iff : EndsBy .lf t ↔
    ∀ before after, t = before ++ '\n' :: after → before.getLast? ≠ some '\r' := by
  simp [EndsBy, Terminator.ofLine_newline]

/-- Behind a line feed a text can be cut without parting a carriage return from its line feed. -/
theorem endsBy_append_iff (ended : left.getLast? = some '\n') :
    EndsBy style (left ++ right) ↔ EndsBy style left ∧ EndsBy style right := by
  -- what is before a line feed on the right decides alone how that line is ended
  have cut : ∀ before, Terminator.ofLine (left ++ before ++ ['\n']) =
      Terminator.ofLine (before ++ ['\n']) := by
    intro before
    rw [Terminator.ofLine_newline, Terminator.ofLine_newline]
    cases before with
    | nil => simp [ended]
    | cons c more => rw [List.getLast?_append_of_ne_nil _ (List.cons_ne_nil c more)]
  constructor
  · intro all
    constructor
    · rintro before after rfl
      exact all before (after ++ right) (by simp)
    · rintro before after rfl
      rw [← cut]
      exact all (left ++ before) after (by simp)
  · rintro ⟨onLeft, onRight⟩ before after same
    rcases List.append_eq_append_iff.mp same with ⟨more, rfl, follows⟩ | ⟨more, rfl, follows⟩
    · rw [cut]
      exact onRight more after follows
    · cases more with
      | nil =>
        have fits := (cut []).trans (onRight [] after follows.symm)
        simpa only [List.append_nil] using fits
      | cons c rest =>
        rw [List.cons_append, List.cons.injEq] at follows
        obtain ⟨rfl, -⟩ := follows
        exact onLeft before rest rfl

end Text

namespace Lines

variable {style : Terminator} {line : Text} {ls : Lines}

theorem endsBy_line_iff (oneLine : '\n' ∉ line.dropLast) : line.EndsBy style ↔
    Terminator.ofLine line = style ∨ Terminator.ofLine line = .none := by
  rw [Terminator.ofLine_eq_none_iff]
  constructor
  · intro all
    rw [or_iff_not_imp_right, not_not]
    intro ended
    obtain ⟨before, rfl⟩ := List.getLast?_eq_some_iff.mp ended
    exact all before [] rfl
  · rintro ended before after rfl
    -- the line feed is the last character
    cases after with
    | nil => exact ended.resolve_right (by simp)
    | cons c more => simp at oneLine

theorem endsBy_join_iff (canonical : Canonical ls) : ls.join.EndsBy style ↔
    ∀ line ∈ ls, Terminator.ofLine line = style ∨ Terminator.ofLine line = .none := by
  induction ls with
  | nil => simp [join, Text.EndsBy]
  | cons line rest ih =>
    obtain ⟨⟨_, oneLine⟩, ended, others⟩ := canonical_cons_iff.mp canonical
    rw [List.forall_mem_cons, ← ih others, ← endsBy_line_iff oneLine]
    rcases eq_or_ne rest [] with rfl | more
    · simp [join, Text.EndsBy]
    · exact Text.endsBy_append_iff (ended more)

instance (style : Terminator) (t : Text) : Decidable (t.EndsBy style) :=
  decidable_of_iff (∀ line ∈ split t, Terminator.ofLine line = style ∨
    Terminator.ofLine line = .none) (by rw [← endsBy_join_iff (canonical_split t), join_split])

theorem ended_of_mem_split {t : Text} (broken : '\n' ∈ t) :
    ∃ first rest, split t = first :: rest ∧ Terminator.ofLine first ≠ .none := by
  have joined := join_split t
  have canonical := canonical_split t
  cases parts : split t with
  | nil =>
    rw [← joined, parts] at broken
    simp [join] at broken
  | cons first rest =>
    refine ⟨first, rest, rfl, ?_⟩
    rw [parts, canonical_cons_iff] at canonical
    obtain ⟨⟨filled, oneLine⟩, ended, _⟩ := canonical
    rw [Terminator.ofLine_ne_none_iff]
    rcases eq_or_ne rest [] with rfl | more
    · -- the only line is the whole text
      rw [← joined, parts] at broken
      simp only [join, List.flatten_cons, List.flatten_nil, List.append_nil] at broken
      rw [← List.dropLast_append_getLast filled, List.mem_append, List.mem_singleton] at broken
      rw [List.getLast?_eq_some_getLast filled, ← broken.resolve_left oneLine]
    · exact ended more

end Lines

/-- The header of a path that does not end in a blank joins with no terminator, even if the path is
empty. -/
theorem RepoPath.open_header {path : RepoPath}
    (solid : ∀ c ∈ path.text.getLast?, Text.isBlank c = false) (marker : Text) :
    (path.header marker).Open := by
  intro c last
  rw [getLast?_header, Option.mem_some_iff] at last
  subst last
  cases ends : path.text.getLast? with
  | none => decide
  | some d =>
    have unblank := solid d ends
    constructor
    · rintro rfl
      exact absurd unblank (by decide)
    · rintro rfl
      exact absurd unblank (by decide)

namespace Header

variable {marker expected first : Text} {style : Terminator} {rest : Lines}

theorem ofLine_corrected (opened : expected.Open) (first : Text) :
    Terminator.ofLine (corrected expected first) = Terminator.ofLine first := by
  rw [corrected]
  split_ifs
  · rfl
  · exact Terminator.ofLine_append_text opened _

/-- A repair of a text that has an ended line ends no line in another way than the first line. -/
theorem ofLine_repair (opened : expected.Open) (ended : Terminator.ofLine first ≠ .none)
    (styled : ∀ line ∈ first :: rest, Terminator.ofLine line = style ∨
      Terminator.ofLine line = .none) :
    ∀ line ∈ (repair marker expected (first :: rest)).1, Terminator.ofLine line = style ∨
      Terminator.ofLine line = .none := by
  have firstStyle : Terminator.ofLine first = style :=
    (styled first List.mem_cons_self).resolve_right ended
  have ending : Lines.ending (first :: rest) = style := by
    rw [Lines.ending, firstStyle]
    cases style with
    | none => contradiction
    | lf => rfl
    | crlf => rfl
  have blank : Terminator.ofLine style.text = style := style.ofLine_text
  have header : Terminator.ofLine (corrected expected first) = style :=
    (ofLine_corrected opened first).trans firstStyle
  have inserted : Terminator.ofLine (expected ++ style.text) = style :=
    Terminator.ofLine_append_text opened style
  by_cases marked : marker <+: Text.trimEnd first
  · cases rest with
    | nil =>
      have closed : style.close (corrected expected first) = corrected expected first :=
        Terminator.close_eq_self (header.trans_ne (firstStyle ▸ ended)) style
      rw [repair_singleton _ marked, ending, closed]
      simp [header, blank]
    | cons second more =>
      rw [repair_cons _ marked, ending]
      intro line found
      rcases List.mem_cons.mp found with rfl | below
      · exact .inl header
      · split_ifs at below
        · exact styled line (List.mem_cons_of_mem _ below)
        · rcases List.mem_cons.mp below with rfl | kept
          · exact .inl blank
          · exact styled line (List.mem_cons_of_mem _ kept)
  · rw [repair_of_unmarked _ marked, ending]
    intro line found
    rcases List.mem_cons.mp found with rfl | below
    · exact .inl inserted
    · rcases List.mem_cons.mp below with rfl | kept
      · exact .inl blank
      · exact styled line kept

/-- The text of a file after the repair of its header. -/
def repairText (marker : Text) (path : RepoPath) (content : Text) : Text :=
  (repair marker (path.header marker) (Lines.split content)).1.join

/-- A repair keeps the way in which the lines of a text are ended: if a carriage return stands
before every line feed it does so afterwards, and if it stands before none it does so before none
afterwards. -/
theorem repairText_keeps_terminators (accepted : Config.isMarker marker = true) {raw : Text}
    (oneLine : '\n' ∉ (RepoPath.normalize raw).text)
    (solid : ∀ c ∈ (RepoPath.normalize raw).text.getLast?, Text.isBlank c = false)
    {content : Text} (broken : '\n' ∈ content) :
    let repaired := repairText marker (RepoPath.normalize raw) content
    ((∀ before after, content = before ++ '\n' :: after → before.getLast? = some '\r') →
      ∀ before after, repaired = before ++ '\n' :: after → before.getLast? = some '\r') ∧
    ((∀ before after, content = before ++ '\n' :: after → before.getLast? ≠ some '\r') →
      ∀ before after, repaired = before ++ '\n' :: after → before.getLast? ≠ some '\r') := by
  intro repaired
  let path := RepoPath.normalize raw
  have keeps : ∀ style, content.EndsBy style → repaired.EndsBy style := by
    intro style styled
    obtain ⟨first, rest, parts, ended⟩ := Lines.ended_of_mem_split broken
    have canonical : (repair marker (path.header marker) (Lines.split content)).1.Canonical :=
      canonical_repair (by simp [RepoPath.header])
        (mt (RepoPath.newline_mem_header_iff accepted path).mp oneLine)
        (Lines.canonical_split content)
    rw [← Lines.join_split content, Lines.endsBy_join_iff (Lines.canonical_split content),
      parts] at styled
    apply (Lines.endsBy_join_iff canonical).mpr
    rw [parts]
    exact ofLine_repair (RepoPath.open_header solid marker) ended styled
  simp only [← Text.endsBy_crlf_iff, ← Text.endsBy_lf_iff]
  exact ⟨keeps .crlf, keeps .lf⟩

/-- A changed path above lines with carriage returns, and a new header above a text in which the
carriage returns stand behind the line feeds. -/
theorem terminators_kept :
    let slashes := "//".toList
    let path := RepoPath.normalize ".\\src\\bot.js".toList
    let returned : Text := "// old.js\r\nx\r\n".toList
    let plain : Text := "x\n\ry\r".toList
    Config.isMarker slashes = true ∧ '\n' ∉ path.text ∧
      (∀ c ∈ path.text.getLast?, Text.isBlank c = false) ∧ '\n' ∈ returned ∧ '\n' ∈ plain ∧
      (∀ before after, returned = before ++ '\n' :: after → before.getLast? = some '\r') ∧
      repairText slashes path returned = "// src/bot.js\r\n\r\nx\r\n".toList ∧
      (∀ before after, repairText slashes path returned = before ++ '\n' :: after →
        before.getLast? = some '\r') ∧
      (∀ before after, plain = before ++ '\n' :: after → before.getLast? ≠ some '\r') ∧
      repairText slashes path plain = "// src/bot.js\n\nx\n\ry\r".toList ∧
      ∀ before after, repairText slashes path plain = before ++ '\n' :: after →
        before.getLast? ≠ some '\r' := by
  intro slashes path returned plain
  have accepted : Config.isMarker slashes = true := by decide
  have showable : path.Showable := by decide
  have returnedBroken : '\n' ∈ returned := by decide
  have plainBroken : '\n' ∈ plain := by decide
  have allReturned := Text.endsBy_crlf_iff.mp (by decide : returned.EndsBy .crlf)
  have nonePlain := Text.endsBy_lf_iff.mp (by decide : plain.EndsBy .lf)
  have keepsReturned := (repairText_keeps_terminators accepted showable.oneLine
    showable.solid returnedBroken).1
  have keepsPlain := (repairText_keeps_terminators accepted showable.oneLine showable.solid
    plainBroken).2
  refine ⟨accepted, showable.oneLine, showable.solid, returnedBroken, plainBroken, allReturned, ?_,
    keepsReturned allReturned, nonePlain, ?_, keepsPlain nonePlain⟩
  · subst slashes path returned
    cbv
  · subst slashes path plain
    cbv

end Header

end PathHeader
