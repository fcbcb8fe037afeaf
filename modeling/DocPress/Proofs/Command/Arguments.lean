import DocPress.Command.Arguments
import DocPress.Command.Run

/-! What a command line asks for. -/

namespace DocPress.Command

/-- The command line asks for the conversion of a file. -/
structure Converts (args : List String) (a : Arguments) (input : String) : Prop where
  parsed : Arguments.parse args = .ok a
  converting : a.listStyles = false
  named : nonEmpty? a.input = some input

/-- The command line asks for the conversion of a file to a look with settings of a file, under an
encoding, and for no other path of the document. -/
structure Asks (args : List String) (input : String) (style : Preset) (encoding settings : String)
    (a : Arguments) : Prop where
  converts : Converts args a input
  style : a.style = style
  encoding : a.encoding = encoding
  config : a.config = some settings
  output : a.output = none

variable {a b : Arguments} {args : List String} {input other value : String} {s : Switch}

theorem Converts.unique (asked : Converts args a input) (again : Converts args b other) :
    a = b ∧ input = other := by
  cases asked.parsed.symm.trans again.parsed
  exact ⟨rfl,Option.some.inj (asked.named.symm.trans again.named)⟩

/-! ### Options with an equals sign -/

theorem ofString_plain (plain : input.toList.head? ≠ some '-') : Word.ofString input = .ok (.plain input) := by
  unfold Word.ofString
  dsimp only
  split
  next shape => simp [shape] at plain
  next => rfl

/-- A short option is found by the character behind its dash. -/
theorem ofString_assigned {c : Char} (short : Switch.ofSpelling? (String.ofList ['-',c]) = some s)
    (other : c ≠ '=') (dash : c ≠ '-') :
    Word.ofString (String.ofList ['-',c,'='] ++ value) = .ok (.attached s true true value.toList) := by
  have chars : (String.ofList ['-',c,'='] ++ value).toList = '-' :: c :: '=' :: value.toList := by
    rw [String.toList_append,String.toList_ofList]
    rfl
  have spellings : ∀ entry ∈ Switch.table,
      entry.1.toList.length = 2 ∨ entry.1.toList.take 2 = ['-','-'] := by decide
  have unlike : Switch.ofSpelling? (String.ofList ['-',c,'='] ++ value) = none := by
    refine List.lookup_eq_none_iff.mpr fun entry member => bne_iff_ne.mpr fun same => ?_
    rcases spellings entry member with short | long
    · rw [← same,chars] at short
      simp at short
    · rw [← same,chars] at long
      exact dash (List.cons.inj (List.cons.inj long).2).1
  have name : ('-' :: c :: '=' :: value.toList).takeWhile (· ≠ '=') = ['-',c] := by
    simp [other]
  have assigned : Word.assigned? ('-' :: c :: '=' :: value.toList) =
      some (.attached s true true value.toList) := by
    unfold Word.assigned?
    rw [name]
    dsimp only
    rw [short]
    rfl
  unfold Word.ofString
  rw [chars,unlike]
  dsimp only
  rw [assigned]
  rfl

theorem ofStrings_cons {text : String} {word : Word} {words : List Word} (option : text ≠ "--")
    (first : Word.ofString text = .ok word) (later : Word.ofStrings args = .ok words) :
    Word.ofStrings (text :: args) = .ok (word :: words) := by
  rw [Word.ofStrings]
  · rw [first,later]
    rfl
  · exact option

theorem takeWords_attached {isShort equals : Bool} {cs : List Char} {words : List Word}
    (takes : s.takesValue = true) (given : a.give s (String.ofList cs) = .ok b) :
    a.takeWords (.attached s isShort equals cs :: words) = b.takeWords words := by
  have taken : a.takeOption (.attached s isShort equals cs) words = .ok (b,0) := by
    have none : a.flags [] = .ok a := rfl
    unfold Arguments.takeOption Arguments.takeLast
    dsimp only
    rw [if_pos takes,none]
    simp only [bind,Except.bind,given]
    rfl
  rw [Arguments.takeWords]
  · rw [taken]
    rfl
  · intro text same
    cases same
  · intro same
    cases same

/-- A command line that asks for a conversion in full. -/
def commandLine (input : String) (style : Preset) (encoding settings : String) : List String :=
  ["-s=" ++ style.name,"-e=" ++ encoding,"-c=" ++ settings,input]

/-- Whatever the names of the file, of its settings and of its encoding are, they can be asked for. -/
theorem asks_commandLine {style : Preset} {encoding settings : String} (filled : input ≠ "")
    (plain : input.toList.head? ≠ some '-') :
    ∃ a, Asks (commandLine input style encoding settings) input style encoding settings a := by
  have known : Preset.ofName (String.ofList style.name.toList) = .ok style := by cases style <;> rfl
  have named : nonEmpty? (some input) = some input := by simp [nonEmpty?,filled]
  have option {c : Char} {value : String} : String.ofList ['-',c,'='] ++ value ≠ "--" := by
    intro same
    have length := congrArg (·.toList.length) same
    simp at length
  have words : Word.ofStrings (commandLine input style encoding settings) =
      .ok [.attached .style true true style.name.toList,.attached .encoding true true encoding.toList,
        .attached .config true true settings.toList,.plain input] := by
    have dashes : input ≠ "--" := by
      rintro rfl
      exact plain rfl
    refine ofStrings_cons option (ofString_assigned (c := 's') (by decide) (by decide) (by decide)) ?_
    refine ofStrings_cons option (ofString_assigned (c := 'e') (by decide) (by decide) (by decide)) ?_
    refine ofStrings_cons option (ofString_assigned (c := 'c') (by decide) (by decide) (by decide)) ?_
    exact ofStrings_cons dashes (ofString_plain plain) rfl
  refine ⟨{ input := some input,inputTaken := true,style,encoding,config := some settings },?_⟩
  refine ⟨⟨?_,rfl,named⟩,rfl,rfl,rfl,rfl⟩
  have taken : Arguments.takeWords {} [.attached .style true true style.name.toList,
      .attached .encoding true true encoding.toList,.attached .config true true settings.toList,
      .plain input] =
        .ok { input := some input,inputTaken := true,style,encoding,config := some settings } := by
    rw [takeWords_attached rfl (b := { style }) (by simp only [Arguments.give,known]),
      takeWords_attached rfl rfl,takeWords_attached rfl rfl,String.ofList_toList,String.ofList_toList]
    simp [Arguments.takeWords]
  unfold Arguments.parse
  rw [words]
  dsimp only
  rw [taken]
  rfl

end DocPress.Command
