import Folio.Page.Host

/-! The events of a render are the words of a grammar. A render opens with one event and ends with
another; in between, its partials come one after the other, each with a whole render between two
events of its own, and then the layout does, if the body has left one. A render that fails breaks
off: nothing is closed any more. -/

namespace Folio

/-- What can be heard of a render: the events of a file, and which layout the body of the file has
left when it was done. -/
inductive Cue where
  | fired (path : Path) (stage : Stage)
  | left (path : Path) (layout? : Option Path)
  deriving Repr

/-- What the words of the protocol are about: a whole render of a file, and partials in it. -/
inductive Symbol where
  | render (path : Path)
  | partials (path : Path)

/-- The words of the protocol, if `find` is the file that a template name stands for. -/
inductive Word (find : String → Option Path) : Symbol → List Cue → Prop
  | plain {path : Path} {body : List Cue} :
      Word find (.partials path) body →
      Word find (.render path)
        (.fired path .prerender :: (body ++ [.left path none, .fired path .rendered]))
  | wrapped {path layout : Path} {body around : List Cue} :
      Word find (.partials path) body → Word find (.render layout) around →
      Word find (.render path)
        (.fired path .prerender :: (body ++ .left path (some layout) ::
          .fired path (.layout layout) :: (around ++
            [.fired path (.renderlayout layout), .fired path .rendered])))
  | nil {path : Path} : Word find (.partials path) []
  | cons {path file : Path} {name : String} {inner later : List Cue} (context : Fields) :
      find name = some file → Word find (.render file) inner →
      Word find (.partials path) later →
      Word find (.partials path)
        (.fired path (.prepartial name context) :: (inner ++ .fired path .afterpartial :: later))

/-- What is said up to an error. A render breaks off in its body, inside a partial or in its layout;
a partial that stands for no file breaks off after the event before it. -/
inductive Cut (find : String → Option Path) (error : Error) : Symbol → List Cue → Prop
  | refused {path : Path} : Cut find error (.render path) []
  | body {path : Path} {body : List Cue} :
      Cut find error (.partials path) body →
      Cut find error (.render path) (.fired path .prerender :: body)
  | layout {path layout : Path} {body around : List Cue} :
      Word find (.partials path) body → Cut find error (.render layout) around →
      Cut find error (.render path)
        (.fired path .prerender :: (body ++ .left path (some layout) ::
          .fired path (.layout layout) :: around))
  | here {path : Path} : Cut find error (.partials path) []
  | later {path file : Path} {name : String} {inner later : List Cue} (context : Fields) :
      find name = some file → Word find (.render file) inner →
      Cut find error (.partials path) later →
      Cut find error (.partials path)
        (.fired path (.prepartial name context) :: (inner ++ .fired path .afterpartial :: later))
  | inside {path file : Path} {name : String} {inner : List Cue} (context : Fields) :
      find name = some file → Cut find error (.render file) inner →
      Cut find error (.partials path) (.fired path (.prepartial name context) :: inner)
  | missing {path : Path} {name : String} (context : Fields) :
      find name = none → error = .templateNotFound name →
      Cut find error (.partials path) [.fired path (.prepartial name context)]

variable {find : String → Option Path} {error : Error}

theorem Word.append {path : Path} {first second : List Cue}
    (word : Word find (.partials path) first) (more : Word find (.partials path) second) :
    Word find (.partials path) (first ++ second) := by
  generalize same : Symbol.partials path = symbol at word
  induction word with
  | plain => cases same
  | wrapped => cases same
  | nil =>
    cases same
    exact more
  | cons context found inner _ _ ih =>
    cases same
    simpa using Word.cons context found inner (ih rfl)

theorem Cut.append {path : Path} {first second : List Cue}
    (word : Word find (.partials path) first) (cut : Cut find error (.partials path) second) :
    Cut find error (.partials path) (first ++ second) := by
  generalize same : Symbol.partials path = symbol at word
  induction word with
  | plain => cases same
  | wrapped => cases same
  | nil =>
    cases same
    exact cut
  | cons context found inner _ _ ih =>
    cases same
    simpa using Cut.later context found inner (ih rfl)

theorem Word.blank (path : Path) :
    Word find (.render path)
      [.fired path .prerender, .left path none, .fired path .rendered] :=
  .plain .nil

/-- Every partial of a word stands for a file. -/
theorem Word.found {symbol : Symbol} {cues : List Cue} (word : Word find symbol cues)
    {path : Path} {name : String} {context : Fields}
    (mem : .fired path (.prepartial name context) ∈ cues) : ∃ file, find name = some file := by
  induction word with
  | plain _ ih => exact ih (by simpa using mem)
  | wrapped _ _ ih ih' =>
    simp only [List.mem_cons, List.mem_append, Cue.fired.injEq, reduceCtorEq, and_false, false_or,
      List.not_mem_nil, or_false] at mem
    rcases mem with mem | mem
    · exact ih mem
    · exact ih' mem
  | nil => cases mem
  | cons context' found _ _ ih ih' =>
    simp only [List.mem_cons, List.mem_append, Cue.fired.injEq, Stage.prepartial.injEq,
      reduceCtorEq, and_false, false_or] at mem
    rcases mem with ⟨_, rfl, _⟩ | mem | mem
    · exact ⟨_, found⟩
    · exact ih mem
    · exact ih' mem

theorem Word.mono {find' : String → Option Path} {symbol : Symbol} {cues : List Cue}
    (h : ∀ name file, find name = some file → find' name = some file)
    (word : Word find symbol cues) : Word find' symbol cues := by
  induction word with
  | plain _ ih => exact .plain ih
  | wrapped _ _ ih ih' => exact .wrapped ih ih'
  | nil => exact .nil
  | cons context found _ _ ih ih' => exact .cons context (h _ _ found) ih ih'

/-- What is said up to an error is the start of a word in which the name that is not found stands
for some file. -/
theorem Cut.exists_word {find' : String → Option Path} {symbol : Symbol} {cues : List Cue}
    (h : ∀ name file, find name = some file → find' name = some file)
    (missing : ∀ name, find name = none → error = .templateNotFound name →
      ∃ file, find' name = some file)
    (cut : Cut find error symbol cues) :
    ∃ word, Word find' symbol word ∧ cues <+: word := by
  induction cut with
  | @refused path => exact ⟨_, .blank path, List.nil_prefix⟩
  | @body path body _ ih =>
    obtain ⟨word, whole, rest, rfl⟩ := ih
    exact ⟨_, .plain whole, rest ++ [.left path none, .fired path .rendered], by simp⟩
  | @layout path layout body around word _ ih =>
    obtain ⟨inner, whole, rest, rfl⟩ := ih
    exact ⟨_, .wrapped (word.mono h) whole,
      rest ++ [.fired path (.renderlayout layout), .fired path .rendered], by simp⟩
  | here => exact ⟨[], .nil, List.nil_prefix⟩
  | later context found inner _ ih =>
    obtain ⟨word, whole, rest, rfl⟩ := ih
    exact ⟨_, .cons context (h _ _ found) (inner.mono h) whole, rest, by simp⟩
  | @inside path file name inner context found _ ih =>
    obtain ⟨word, whole, rest, rfl⟩ := ih
    exact ⟨_, .cons context (h _ _ found) whole .nil, rest ++ [.fired path .afterpartial], by simp⟩
  | @missing path name context absent same =>
    obtain ⟨file, found⟩ := missing name absent same
    exact ⟨_, .cons context found (.blank file) .nil, _, rfl⟩

/-- A render breaks off at a partial that stands for no file, or else where it could have broken off
with any other error. -/
theorem Cut.missing_or {symbol : Symbol} {cues : List Cue} (cut : Cut find error symbol cues)
    (other : Error) :
    (∃ name, error = .templateNotFound name ∧ find name = none ∧
      ∃ said path context, cues = said ++ [.fired path (.prepartial name context)]) ∨
    Cut find other symbol cues := by
  induction cut with
  | refused => exact .inr .refused
  | body _ ih =>
    rcases ih with ⟨name, same, absent, said, path, context, rfl⟩ | cut
    · exact .inl ⟨name, same, absent, _ :: said, path, context, rfl⟩
    · exact .inr (.body cut)
  | @layout path layout body around word _ ih =>
    rcases ih with ⟨name, same, absent, said, last, context, rfl⟩ | cut
    · exact .inl ⟨name, same, absent, .fired path .prerender :: (body ++ .left path (some layout) ::
        .fired path (.layout layout) :: said), last, context, by simp⟩
    · exact .inr (.layout word cut)
  | here => exact .inr .here
  | @later path file name inner later context found word _ ih =>
    rcases ih with ⟨missing, same, absent, said, last, context', rfl⟩ | cut
    · exact .inl ⟨missing, same, absent, .fired path (.prepartial name context) ::
        (inner ++ .fired path .afterpartial :: said), last, context', by simp⟩
    · exact .inr (.later context found word cut)
  | inside context found _ ih =>
    rcases ih with ⟨missing, same, absent, said, last, context', rfl⟩ | cut
    · exact .inl ⟨missing, same, absent, _ :: said, last, context', rfl⟩
    · exact .inr (.inside context found cut)
  | @missing path name context absent same =>
    exact .inl ⟨name, same, absent, [], path, context, rfl⟩

end Folio
