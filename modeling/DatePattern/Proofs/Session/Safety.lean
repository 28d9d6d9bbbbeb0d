import DatePattern.Proofs.Text.Case
import DatePattern.Proofs.Text.Split
import DatePattern.Session.Basic
import Mathlib.Data.List.TakeWhile

/-!
# Sessions stay sound

A session needs a dialect for `.explain`, and shows a label that must be the one its subject was
made from. A line may change either, and may fail while it does.

- `Session.verb`, `Session.argument`: a line read as a command, without regard to what the session
  does with it;
- `Session.Change`: the ways in which a line may change a session, each with what the line must be;
- `Session.obeys_handle`: every line follows one of these ways, a line that reports a fault follows
  none, and only two commands end the session. Everything below is read off this;
- `Session.sound_after`: what a line keeps, a sequence of lines keeps;
- `session_stays_sound`: all of it, for the next line after any lines.
-/

namespace DatePattern

/-- Cutting at a space takes what stands before the first one and what follows it. -/
theorem Text.cut?_space (text : Text) :
    Text.cut? " " text =
      if 0x20 ∈ text then
        some (text.takeWhile (· != 0x20), (text.dropWhile (· != 0x20)).drop 1)
      else none := by
  have space : Text.ofString " " = [0x20] := by decide
  rw [space]
  exact Text.cut?_byte 0x20 text

namespace Session

/-! ## A line as a command -/

/-- What stands before the first space of a line without white space around it, in lower case. -/
def verb (line : Text) : Text := Text.lower (line.trim.takeWhile (· != 0x20))

/-- What follows the first space of a line without white space around it, trimmed again. -/
def argument (line : Text) : Text := Text.trim ((line.trim.dropWhile (· != 0x20)).drop 1)

/-- A line that folds to a command is one: no other character has the dot as its lower case. -/
theorem head?_trim_of_verb {line : Text} (h : (verb line).chars.head? = some '.') :
    line.trim.head? = some 0x2E := by
  obtain ⟨cs, split⟩ := List.head?_eq_some_iff.mp h
  rw [verb, Text.chars_lower] at split
  obtain ⟨c, rest, read, folded, -⟩ := List.map_eq_cons_iff.mp split
  obtain rfl : c = '.' := CharClass.eq_of_lower_eq folded (by decide)
  have front := Text.head?_of_chars read (by decide)
  rw [List.head?_takeWhile] at front
  exact (Option.filter_eq_some_iff.mp front).1

theorem handle_of_dot {session : Session} {registry : Registry} {line : Text}
    (dot : line.trim.head? = some 0x2E) :
    session.handle registry line =
      session.command registry (line.trim.takeWhile (· != 0x20)) (argument line) := by
  unfold handle
  dsimp only
  split
  · next empty =>
    rw [empty] at dot
    cases dot
  · by_cases space : 0x20 ∈ line.trim
    · rw [Text.cut?_space, if_pos space]
      rfl
    · -- without a space the whole line is the name
      have all : ∀ b ∈ line.trim, (b != 0x20) = true := by
        intro b mem
        rw [bne_iff_ne]
        rintro rfl
        exact space mem
      rw [Text.cut?_space, if_neg space, argument, List.takeWhile_eq_self_iff.mpr all,
        List.dropWhile_eq_nil_iff.mpr all]
      rfl
  · next noDot =>
    obtain ⟨rest, trimmed⟩ := List.head?_eq_some_iff.mp dot
    exact absurd trimmed (noDot rest)

theorem handle_of_not_dot {session : Session} {registry : Registry} {line : Text}
    (noDot : line.trim.head? ≠ some 0x2E) :
    session.handle registry line = if line.trim = [] then { session } else session.format line := by
  unfold handle
  dsimp only
  split
  · next empty => rw [if_pos empty]
  · next rest trimmed => rw [trimmed] at noDot; exact absurd rfl noDot
  · next nonempty _ => rw [if_neg nonempty]

/-! ## What a line may do -/

/-- The ways in which a command may change a session. -/
inductive Change (registry : Registry) (session : Session) (verb argument : Text) :
    Session → Prop where
  /-- It leaves the session as it is. -/
  | none : Change registry session verb argument session
  /-- It sets the dialects, all of them found. -/
  | dialects {found : List Grammar} : verb = ".dialect" → argument ≠ [] →
      dialectsOf registry (argument.splitAtByte 0x2C) = .ok found →
      Change registry session verb argument { session with dialects := found }
  /-- It makes a column the subject. -/
  | column : verb = ".column" → argument ≠ [] →
      Change registry session verb argument { session with subject := .column argument }
  /-- It makes a piece of SQL the subject. -/
  | raw : verb = ".expr" → argument ≠ [] →
      Change registry session verb argument { session with subject := .raw argument }

/-- What is true of every turn: it changes the session in one of the ways, and in none when it
reports a fault; it ends the session only when asked to; and it lacks no dialect when there is
one. -/
structure Obeys (registry : Registry) (session : Session) (verb argument : Text) (turn : Turn) :
    Prop where
  change : Change registry session verb argument turn.session
  unchanged : turn.err ≠ [] → turn.session = session
  ends : turn.quit = true ↔ verb = ".quit" ∨ verb = ".exit"
  served : session.dialects ≠ [] → turn.stuck = false

section Commands

variable {session : Session} {registry : Registry} {verb argument : Text}

/-- A turn that leaves the session as it is and goes on. -/
theorem Obeys.idle {turn : Turn} (stays : ¬ (verb = ".quit" ∨ verb = ".exit"))
    (same : turn.session = session) (on : turn.quit = false)
    (served : session.dialects ≠ [] → turn.stuck = false) :
    Obeys registry session verb argument turn where
  change := same ▸ .none
  unchanged _ := same
  ends := by
    rw [on]
    exact iff_of_false Bool.false_ne_true stays
  served := served

/-- A turn that changes the session without a report. -/
theorem Obeys.changing {next : Session} (stays : ¬ (verb = ".quit" ∨ verb = ".exit"))
    (change : Change registry session verb argument next) :
    Obeys registry session verb argument { session := next } where
  change := change
  unchanged reported := absurd rfl reported
  ends := iff_of_false Bool.false_ne_true stays
  served _ := rfl

/-- Setting the dialects sets all of them or reports a fault. -/
theorem obeys_setDialects (named : verb = ".dialect") (given : argument ≠ []) :
    Obeys registry session verb argument (session.setDialects registry argument) := by
  have stays : ¬ (verb = ".quit" ∨ verb = ".exit") := by
    rw [named]
    decide
  unfold setDialects
  cases found : dialectsOf registry (argument.splitAtByte 0x2C) with
  | ok dialects => exact .changing stays (.dialects named given found)
  | error e => exact .idle stays rfl rfl fun _ => rfl

/-- Explaining a format changes nothing, and needs the first dialect. -/
theorem obeys_explain (stays : ¬ (verb = ".quit" ∨ verb = ".exit")) (format : Text) :
    Obeys registry session verb argument (session.explain format) := by
  unfold explain
  cases dialects : session.dialects with
  | nil => exact .idle stays rfl rfl fun given => absurd dialects given
  | cons g rest =>
    dsimp only
    cases Output.explain g session.subject.expr format with
    | ok explained => exact .idle stays rfl rfl fun _ => rfl
    | error e => exact .idle stays rfl rfl fun _ => rfl

/-- **Every command obeys**, whichever it is. -/
theorem obeys_command (session : Session) (registry : Registry) (name argument : Text) :
    Obeys registry session name.lower argument (session.command registry name argument) := by
  unfold command
  dsimp only
  by_cases ends : name.lower = ".quit" ∨ name.lower = ".exit"
  · rw [if_pos (by simpa using ends)]
    exact ⟨.none, fun _ => rfl, iff_of_true rfl ends, fun _ => rfl⟩
  rw [if_neg (by simpa using ends)]
  have idle : ∀ out err : Text, Obeys registry session name.lower argument { session, out, err } :=
    fun _ _ => .idle ends rfl rfl fun _ => rfl
  -- the commands in the order in which they are told apart; an argument may be missing
  split
  · exact idle _ _
  split
  · next named =>
    split
    · exact idle _ _
    · next given => exact obeys_setDialects named (mt List.isEmpty_iff.mpr given)
  split
  · next named =>
    split
    · exact idle _ _
    · next given => exact .changing ends (.column named (mt List.isEmpty_iff.mpr given))
  split
  · next named =>
    split
    · exact idle _ _
    · next given => exact .changing ends (.raw named (mt List.isEmpty_iff.mpr given))
  split
  · split
    · exact idle _ _
    · exact obeys_explain ends argument
  · exact idle _ _

end Commands

/-- **Every line obeys**: a command by what it is, and any other line because it is no command,
in whatever case. -/
theorem obeys_handle (session : Session) (registry : Registry) (line : Text) :
    Obeys registry session (verb line) (argument line) (session.handle registry line) := by
  by_cases dot : line.trim.head? = some 0x2E
  · rw [handle_of_dot dot]
    exact obeys_command session registry _ (argument line)
  · have stays : ¬ (verb line = ".quit" ∨ verb line = ".exit") := by
      rintro (quit | exit)
      · exact dot (head?_trim_of_verb (by rw [quit]; decide))
      · exact dot (head?_trim_of_verb (by rw [exit]; decide))
    rw [handle_of_not_dot dot]
    split
    · exact .idle stays rfl rfl fun _ => rfl
    · exact .idle stays rfl rfl fun _ => rfl

/-! ## Lists of dialects -/

theorem length_dialectsOf {registry : Registry} {names : List Text} {found : List Grammar}
    (h : dialectsOf registry names = .ok found) : found.length = names.length := by
  induction names generalizing found with
  | nil =>
    cases h
    rfl
  | cons name rest ih =>
    rw [dialectsOf] at h
    cases one : registry.lookup name.trim with
    | error e =>
      rw [one] at h
      cases h
    | ok g =>
      cases others : dialectsOf registry rest with
      | error e =>
        rw [one, others] at h
        cases h
      | ok gs =>
        rw [one, others] at h
        cases h
        exact congrArg (· + 1) (ih others)

/-- One unknown name spoils a list of dialects, wherever it stands. -/
theorem dialectsOf_unknown {registry : Registry} {names : List Text} {name : Text}
    {e : DialectError} (mem : name ∈ names) (unknown : registry.lookup name.trim = .error e) :
    ∃ fault, dialectsOf registry names = .error fault := by
  induction names with
  | nil => cases mem
  | cons first rest ih =>
    rw [dialectsOf]
    cases one : registry.lookup first.trim with
    | error fault => exact ⟨fault, rfl⟩
    | ok g =>
      rcases List.mem_cons.mp mem with rfl | later
      · rw [unknown] at one
        cases one
      · obtain ⟨fault, others⟩ := ih later
        exact ⟨fault, by rw [others]; rfl⟩

/-! ## Soundness -/

/-- There is a dialect, and the subject is the column or the piece of SQL that its label names. -/
structure Sound (session : Session) : Prop where
  dialects : session.dialects ≠ []
  subject : session.subject.expr = .column session.subject.label ∨
    session.subject.expr = .raw session.subject.label

/-- Each way of changing a session keeps it sound. -/
theorem Change.sound {registry : Registry} {session next : Session} {verb argument : Text}
    (change : Change registry session verb argument next) (sound : session.Sound) :
    next.Sound := by
  cases change with
  | none => exact sound
  | @dialects found _ _ all =>
    refine ⟨?_, sound.subject⟩
    -- there is always a name between the commas
    have names := List.length_pos_iff.mpr (Text.splitAtByte_ne_nil 0x2C argument)
    rw [← length_dialectsOf all] at names
    exact List.length_pos_iff.mp names
  | column _ _ => exact ⟨sound.dialects, .inl rfl⟩
  | raw _ _ => exact ⟨sound.dialects, .inr rfl⟩

/-- A session is changed only by one of the three commands that set something, with something to
set. -/
theorem Change.eq_of_not_setting {registry : Registry} {session next : Session}
    {verb argument : Text} (change : Change registry session verb argument next)
    (other : ¬ ((verb = ".dialect" ∨ verb = ".column" ∨ verb = ".expr") ∧ argument ≠ [])) :
    next = session := by
  cases change with
  | none => rfl
  | dialects named given _ => exact absurd ⟨.inl named, given⟩ other
  | column named given => exact absurd ⟨.inr (.inl named), given⟩ other
  | raw named given => exact absurd ⟨.inr (.inr named), given⟩ other

/-- A list of dialects with an unknown name is reported. -/
theorem err_of_unknown (session : Session) {registry : Registry} {line name : Text}
    {e : DialectError} (named : verb line = ".dialect")
    (mem : name ∈ (argument line).splitAtByte 0x2C)
    (given : argument line ≠ []) (unknown : registry.lookup name.trim = .error e) :
    (session.handle registry line).err ≠ [] := by
  obtain ⟨fault, spoilt⟩ := dialectsOf_unknown mem unknown
  have dot : line.trim.head? = some 0x2E := head?_trim_of_verb (by rw [named]; decide)
  have set : session.handle registry line = session.setDialects registry (argument line) := by
    have lower : Text.lower (line.trim.takeWhile (· != 0x20)) = ".dialect" := named
    rw [handle_of_dot dot, command, lower, if_neg (by decide), if_neg (by decide), if_pos rfl,
      if_neg (mt List.isEmpty_iff.mp given)]
  rw [set, setDialects, spoilt]
  exact List.append_ne_nil_of_right_ne_nil _ (by decide)

/-! ## Sequences of lines -/

/-- The session after some lines. -/
def after (session : Session) (registry : Registry) (lines : List Text) : Session :=
  lines.foldl (fun current line => (current.handle registry line).session) session

/-- What every line keeps, all of them keep. -/
theorem sound_after {session : Session} (registry : Registry) (lines : List Text)
    (sound : session.Sound) : (session.after registry lines).Sound := by
  induction lines generalizing session with
  | nil => exact sound
  | cons line rest ih => exact ih ((obeys_handle session registry line).change.sound sound)

/-- A run goes through the lines up to the first that ends the session. -/
theorem getElem?_run (session : Session) (registry : Registry) (past : List Text) (line : Text)
    (future : List Text)
    (on : ∀ earlier ∈ past, ¬ (verb earlier = ".quit" ∨ verb earlier = ".exit")) :
    (session.run registry (past ++ line :: future))[past.length]?
      = some ((session.after registry past).handle registry line) := by
  induction past generalizing session with
  | nil => rfl
  | cons earlier rest ih =>
    obtain ⟨goes, later⟩ := List.forall_mem_cons.mp on
    -- the earlier line does not end the session, so the run goes on from what it left
    have going : ¬ (session.handle registry earlier).quit = true :=
      mt (obeys_handle session registry earlier).ends.mp goes
    rw [List.cons_append, run, if_neg going, List.length_cons, List.getElem?_cons_succ, ih _ later]
    rfl

end Session

open Session in
/-- **A session is never left in a bad or half-changed state.** Take a session with a dialect whose
subject is the column or the piece of SQL of its label, any lines, and one line more. The session
still has a dialect, so that the line lacks none, and its subject is still that of its label. A line
that reports anything leaves the session exactly as it was; a list of dialects with an unknown name
anywhere is such a line. A line that is not one of the three setting commands with an argument
leaves it as it was too. The line ends the session exactly when its first word is `.quit` or
`.exit` in any case, and a run comes to the line unless an earlier one ended it. -/
theorem session_stays_sound (registry : Registry) (start : Session) (sound : start.Sound)
    (past : List Text) (line : Text) :
    let before := start.after registry past
    let turn := before.handle registry line
    before.Sound ∧ turn.session.Sound ∧ turn.stuck = false ∧
      (turn.err ≠ [] → turn.session = before) ∧
      (verb line = ".dialect" → argument line ≠ [] →
        ∀ name ∈ (argument line).splitAtByte 0x2C, ∀ e, registry.lookup name.trim = .error e →
          turn.err ≠ [] ∧ turn.session = before) ∧
      (¬ ((verb line = ".dialect" ∨ verb line = ".column" ∨ verb line = ".expr") ∧
        argument line ≠ []) → turn.session = before) ∧
      (turn.quit = true ↔ verb line = ".quit" ∨ verb line = ".exit") ∧
      ((∀ earlier ∈ past, ¬ (verb earlier = ".quit" ∨ verb earlier = ".exit")) →
        ∀ future, (start.run registry (past ++ line :: future))[past.length]? = some turn) := by
  intro before turn
  have soundBefore : before.Sound := sound_after registry past sound
  have obeys := obeys_handle before registry line
  refine ⟨soundBefore, obeys.change.sound soundBefore, obeys.served soundBefore.dialects,
    obeys.unchanged, ?_, obeys.change.eq_of_not_setting, obeys.ends, ?_⟩
  · intro named given name mem e unknown
    have reported := err_of_unknown before named mem given unknown
    exact ⟨reported, obeys.unchanged reported⟩
  · intro on future
    exact getElem?_run start registry past line future on

/-- Two lines set the dialects and the subject. A third names a known, an unknown and again a known
dialect: it is reported and sets none of them. -/
theorem session_stays_sound_example :
    let start : Session := ⟨[Engine.mysql.grammar], .column "at"⟩
    let before := start.after Registry.standard [".DIALECT pg , sqlite3", " .expr  now() "]
    let turn := before.handle Registry.standard ".dialect mysql,oracle,sqlite"
    start.Sound ∧ before.dialects = [Engine.postgres.grammar, Engine.sqlite.grammar] ∧
      before.subject.label = "now()" ∧ turn.err ≠ [] ∧ turn.session = before ∧
      turn.stuck = false ∧ ¬ turn.quit = true := by
  intro start before turn
  have sound : start.Sound := ⟨by decide, .inl rfl⟩
  obtain ⟨-, -, served, -, unknown, -, ends, -⟩ :=
    session_stays_sound Registry.standard start sound [".DIALECT pg , sqlite3", " .expr  now() "]
      ".dialect mysql,oracle,sqlite"
  obtain ⟨reported, same⟩ :=
    unknown (by decide) (by decide) "oracle" (by decide) (.unknownName "oracle") (by decide)
  exact ⟨sound, by decide, by decide, reported, same, served, mt ends.mp (by decide)⟩

end DatePattern
