/-
Reading a script back: its text is split into lines, comments are passed
over, and the words of every other line say which command it is.

`readScript?_scriptText`: what is read from the text of lines is their commands,
where names and keys are words and all else keeps to its line.
-/
import PermScript.Command

namespace PermScript

/-! ## Pieces -/

/-- The pieces of a text between the occurrences of a character. -/
def pieces (sep : Char) (s : String) : List String := (s.toList.splitOn sep).map String.ofList

theorem pieces_of_not_mem {sep : Char} {s : String} (h : sep ∉ s.toList) : pieces sep s = [s] := by
  rw [pieces, List.splitOn_eq_singleton h, List.map_singleton, String.ofList_toList]

theorem pieces_append {sep : Char} {a : String} (h : sep ∉ a.toList) (b : String) :
    pieces sep (a ++ String.singleton sep ++ b) = a :: pieces sep b := by
  have hsplit : (a ++ String.singleton sep ++ b).toList = a.toList ++ sep :: b.toList := by simp
  rw [pieces, hsplit, List.splitOn_append_cons_self_of_not_mem h, List.map_cons,
    String.ofList_toList, pieces]

theorem intercalate_pieces (sep : Char) (s : String) :
    (String.singleton sep).intercalate (pieces sep s) = s := by
  rw [← String.toList_inj, String.toList_intercalate, pieces, List.map_map]
  simp [Function.comp_def, List.intercalate_splitOn]

/-! ## Reading -/

/-- The words of a line. -/
def words (s : String) : List String := pieces ' ' s

/-- The side that a word names. -/
def readSide? : String → Option Side
  | "player" => some .player
  | "group" => some .group
  | _ => none

/-- The decoration that a word names. -/
def readDecoration? : String → Option Decoration
  | "prefix" => some .before
  | "suffix" => some .after
  | _ => none

/-- The truth value that a word names. -/
def readBool? : String → Option Bool
  | "true" => some true
  | "false" => some false
  | _ => none

/-- Reads a command from the words after the name of its entity. What comes
last in a line may be of several words. -/
def readAction? (side : Side) (name : String) : List String → Option Line
  | ["create"] => if side = .group then some (.create name) else none
  | ["set", key, value] => (readBool? value).map (.set side name key)
  | "setparent" :: rest =>
    if side = .group then some (.setParent name (" ".intercalate rest)) else none
  | "metadata" :: "set" :: decoration :: rest =>
    (readDecoration? decoration).map fun d => .decorate side name d (" ".intercalate rest)
  | "add" :: rest => if side = .group then some (.add name (" ".intercalate rest)) else none
  | _ => none

/-- Reads a command. -/
def readCommand? (text : String) : Option Line :=
  match words text with
  | "permissions" :: side :: name :: action =>
    (readSide? side).bind fun side => readAction? side name action
  | _ => none

/-- Whether a line is passed over: a comment or nothing at all. -/
def isRemark (text : String) : Bool :=
  match text.toList with
  | [] => true
  | c :: _ => c == '#'

/-- Reads the commands of a script. -/
def readScript? (text : String) : Option (List Line) :=
  ((pieces '\n' text).filter fun l => !isRemark l).mapM readCommand?

/-! ## Words and lines -/

/-- A text on one line. -/
def OneLine (s : String) : Prop := '\n' ∉ s.toList

instance (s : String) : Decidable (OneLine s) := inferInstanceAs (Decidable (¬ _))

/-- A text on one line and without spaces. -/
def OneWord (s : String) : Prop := ' ' ∉ s.toList ∧ '\n' ∉ s.toList

instance (s : String) : Decidable (OneWord s) := inferInstanceAs (Decidable (_ ∧ _))

theorem OneWord.oneLine {s : String} (h : OneWord s) : OneLine s := h.2

/-- Names and keys are words, and everything else is on one line. -/
def Line.Plain : Line → Prop
  | heading _ name => OneWord name
  | create group => OneWord group
  | set _ name key _ => OneWord name ∧ OneWord key
  | setParent group parent => OneWord group ∧ OneLine parent
  | decorate _ name _ text => OneWord name ∧ OneLine text
  | add group member => OneWord group ∧ OneLine member

namespace Line

/-- Whether a line is a command. -/
def isCommand : Line → Bool
  | heading .. => false
  | _ => true

/-- The side of the entity that a line is about. -/
def side : Line → Side
  | heading side _ => side
  | create _ => .group
  | set side .. => side
  | setParent .. => .group
  | decorate side .. => side
  | add .. => .group

/-- The entity that a line is about. -/
def name : Line → String
  | heading _ name => name
  | create group => group
  | set _ name .. => name
  | setParent group _ => group
  | decorate _ name .. => name
  | add group _ => group

/-- What a command says after the name of its entity. -/
def action : Line → String
  | heading .. => ""
  | create _ => "create"
  | set _ _ key value => "set" ++ " " ++ (key ++ " " ++ toString value)
  | setParent _ parent => "setparent" ++ " " ++ parent
  | decorate _ _ decoration text =>
    "metadata" ++ " " ++ ("set" ++ " " ++ (decoration.keyword ++ " " ++ text))
  | add _ member => "add" ++ " " ++ member

theorem text_of_isCommand {l : Line} (hc : l.isCommand = true) :
    l.text = commandHead l.side l.name ++ " " ++ l.action := by
  cases l with
  | heading => cases hc
  | create group =>
    rw [text, String.append_assoc]
    rfl
  | set side name key value =>
    cases value <;> simp only [text, action, String.append_assoc] <;> rfl
  | setParent group parent =>
    simp only [text, action, String.append_assoc]
    rfl
  | decorate side name decoration text =>
    simp only [Line.text, action, String.append_assoc]
    rfl
  | add group member =>
    simp only [text, action, String.append_assoc]
    rfl

theorem Plain.name {l : Line} (h : l.Plain) : OneWord l.name := by
  cases l with
  | heading => exact h
  | create => exact h
  | set => exact h.1
  | setParent => exact h.1
  | decorate => exact h.1
  | add => exact h.1

end Line

theorem words_append {a : String} (h : ' ' ∉ a.toList) (b : String) :
    words (a ++ " " ++ b) = a :: words b := pieces_append h b

theorem intercalate_words (s : String) : " ".intercalate (words s) = s := intercalate_pieces ' ' s

theorem words_commandHead {side : Side} {name : String} (h : OneWord name) (action : String) :
    words (commandHead side name ++ " " ++ action) =
      "permissions" :: side.keyword :: name :: words action := by
  have hside : ' ' ∉ side.keyword.toList := by cases side <;> decide
  have hhead : commandHead side name ++ " " ++ action =
      "permissions" ++ " " ++ (side.keyword ++ " " ++ (name ++ " " ++ action)) := by
    simp only [commandHead, String.append_assoc]
    rfl
  rw [hhead, words_append (by decide), words_append hside, words_append h.1]

theorem readCommand?_commandHead {side : Side} {name : String} (h : OneWord name)
    (action : String) :
    readCommand? (commandHead side name ++ " " ++ action) =
      readAction? side name (words action) := by
  have hside : readSide? side.keyword = some side := by cases side <;> rfl
  rw [readCommand?, words_commandHead h]
  simp only [hside, Option.bind_some]

theorem readAction?_action {l : Line} (h : l.Plain) (hc : l.isCommand = true) :
    readAction? l.side l.name (words l.action) = some l := by
  cases l with
  | heading => cases hc
  | create group =>
    rw [Line.action, words, pieces_of_not_mem (by decide)]
    rfl
  | set side name key value =>
    have hvalue : ' ' ∉ (toString value).toList := by cases value <;> decide
    rw [Line.action, words_append (by decide), words_append h.2.1, words, pieces_of_not_mem hvalue]
    cases value <;> rfl
  | setParent group parent =>
    rw [Line.action, words_append (by decide)]
    simp [readAction?, intercalate_words, Line.side, Line.name]
  | decorate side name decoration text =>
    have hdecoration : ' ' ∉ decoration.keyword.toList := by cases decoration <;> decide
    have hread : readDecoration? decoration.keyword = some decoration := by cases decoration <;> rfl
    rw [Line.action, words_append (by decide), words_append (by decide), words_append hdecoration]
    simp [readAction?, hread, intercalate_words, Line.side, Line.name]
  | add group member =>
    rw [Line.action, words_append (by decide)]
    simp [readAction?, intercalate_words, Line.side, Line.name]

/-- A command is read as it was written. -/
theorem readCommand?_text {l : Line} (h : l.Plain) (hc : l.isCommand = true) :
    readCommand? l.text = some l := by
  rw [Line.text_of_isCommand hc, readCommand?_commandHead h.name, readAction?_action h hc]

/-! ## Scripts -/

theorem oneLine_append {a b : String} : OneLine (a ++ b) ↔ OneLine a ∧ OneLine b := by
  simp [OneLine, not_or]

/-- The names and other texts that a line is put together from. -/
def Line.texts : Line → List String
  | heading _ name => [name]
  | create group => [group]
  | set _ name key _ => [name, key]
  | setParent group parent => [group, parent]
  | decorate _ name _ text => [name, text]
  | add group member => [group, member]

theorem oneLine_commandHead {side : Side} {name : String} :
    OneLine (commandHead side name) ↔ OneLine name := by
  have hside : OneLine side.keyword := by cases side <;> decide
  have hword : OneLine "permissions " := by decide
  have hspace : OneLine " " := by decide
  simp only [commandHead, oneLine_append, hword, hside, hspace, true_and]

/-- The words of a line do not break it, so it is on one line exactly if the
texts in it are. -/
theorem oneLine_text {l : Line} : OneLine l.text ↔ ∀ text ∈ l.texts, OneLine text := by
  have hspace : OneLine " " := by decide
  cases l with
  | heading side name =>
    have hside : OneLine side.title := by cases side <;> decide
    have hmark : OneLine "# " := by decide
    simp [Line.text, Line.texts, oneLine_append, hmark, hside, hspace]
  | create group =>
    have hword : OneLine " create" := by decide
    simp [Line.text, Line.texts, oneLine_append, oneLine_commandHead, hword]
  | set side name key value =>
    have hvalue : OneLine (if value then "true" else "false") := by cases value <;> decide
    have hword : OneLine " set " := by decide
    simp [Line.text, Line.texts, oneLine_append, oneLine_commandHead, hword, hspace, hvalue]
  | setParent group parent =>
    have hword : OneLine " setparent " := by decide
    simp [Line.text, Line.texts, oneLine_append, oneLine_commandHead, hword]
  | decorate side name decoration text =>
    have hdecoration : OneLine decoration.keyword := by cases decoration <;> decide
    have hword : OneLine " metadata set " := by decide
    simp [Line.text, Line.texts, oneLine_append, oneLine_commandHead, hword, hspace, hdecoration]
  | add group member =>
    have hword : OneLine " add " := by decide
    simp [Line.text, Line.texts, oneLine_append, oneLine_commandHead, hword]

/-- A line of a script is one line of its text. -/
theorem Line.Plain.oneLine {l : Line} (h : l.Plain) : OneLine l.text := by
  rw [oneLine_text]
  cases l with
  | heading => simpa [Line.texts] using OneWord.oneLine h
  | create => simpa [Line.texts] using OneWord.oneLine h
  | set => simpa [Line.texts] using And.intro h.1.oneLine h.2.oneLine
  | setParent => simpa [Line.texts] using And.intro h.1.oneLine h.2
  | decorate => simpa [Line.texts] using And.intro h.1.oneLine h.2
  | add => simpa [Line.texts] using And.intro h.1.oneLine h.2

/-- The lines that are passed over are those that are no commands. -/
theorem isRemark_text (l : Line) : isRemark l.text = !l.isCommand := by
  by_cases hc : l.isCommand = true
  · rw [Line.text_of_isCommand hc, hc]
    simp [isRemark, commandHead]
  · cases l with
    | heading side name => simp [isRemark, Line.text, Line.isCommand]
    | _ => exact absurd rfl hc

/-- The text of lines, each with its end. -/
def scriptText (ls : List Line) : String := String.join (ls.map fun l => l.text ++ "\n")

theorem pieces_scriptText {ls : List Line} (h : ∀ l ∈ ls, OneLine l.text) :
    pieces '\n' (scriptText ls) = ls.map Line.text ++ [""] := by
  induction ls with
  | nil => decide
  | cons l ls ih =>
    rw [scriptText, List.map_cons, String.join_cons, ← scriptText]
    exact (pieces_append (h l (by simp)) _).trans
      (congrArg _ (ih fun m hm => h m (by simp [hm])))

theorem mapM_readCommand? {ls : List Line} (h : ∀ l ∈ ls, l.Plain)
    (hc : ∀ l ∈ ls, l.isCommand = true) : (ls.map Line.text).mapM readCommand? = some ls := by
  induction ls with
  | nil => rfl
  | cons l ls ih =>
    rw [List.map_cons, List.mapM_cons, readCommand?_text (h l (by simp)) (hc l (by simp)),
      ih (fun m hm => h m (by simp [hm])) (fun m hm => hc m (by simp [hm]))]
    rfl

/-- From the text of lines, their commands are read. -/
theorem readScript?_scriptText {ls : List Line} (h : ∀ l ∈ ls, l.Plain) :
    readScript? (scriptText ls) = some (ls.filter Line.isCommand) := by
  have hkept : ((pieces '\n' (scriptText ls)).filter fun l => !isRemark l) =
      (ls.filter Line.isCommand).map Line.text := by
    have hlast : isRemark "" = true := rfl
    rw [pieces_scriptText fun l hl => (h l hl).oneLine, List.filter_append, List.filter_map]
    simp [Function.comp_def, isRemark_text, hlast]
  rw [readScript?, hkept]
  exact mapM_readCommand? (fun l hl => h l (List.mem_filter.1 hl).1)
    fun l hl => (List.mem_filter.1 hl).2

end PermScript
