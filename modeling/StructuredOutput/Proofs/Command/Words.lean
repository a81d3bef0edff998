import StructuredOutput.Command
import StructuredOutput.Proofs.Provider

/-!
# How commands are written

The grammar of the command line as a relation between words and commands, and beside it the
words that are refused, each with its error. The main statement is that `Command.ofWords`
is this grammar: it takes the words that are written so and no others, and refuses the rest
with just these errors. So a command is read back from its own words, but for a file that
is called like standard input.
-/

namespace StructuredOutput

/-! ## Sources -/

/-- What a word for a source means: a single hyphen is standard input, any other word is a
path. -/
inductive SourceWord : String → Source → Prop
  | stdin : SourceWord "-" .stdin
  | file {path : String} (h : path ≠ "-") : SourceWord path (.file path)

theorem SourceWord.ofWord {word : String} {source : Source} (h : SourceWord word source) :
    Source.ofWord word = source := by
  cases h with
  | stdin => rfl
  | file hne => exact if_neg hne

theorem sourceWord_ofWord (word : String) : SourceWord word (.ofWord word) := by
  by_cases h : word = "-"
  · subst h
    exact .stdin
  · rw [Source.ofWord, Source.stdinWord, if_neg h]
    exact .file h

theorem sourceWord_word {source : Source} (h : source ≠ .file "-") :
    SourceWord source.word source := by
  cases source with
  | stdin => exact .stdin
  | file path =>
    refine .file fun hpath => h ?_
    exact congrArg Source.file hpath

namespace Command

/-! ## Grammar -/

/-- How commands are written. -/
inductive Written : List String → Command → Prop
  | nothing : Written [] help
  | help {first : String} (h : first ∈ ["help", "-h", "--help"]) (rest : List String) :
    Written (first :: rest) help
  | compile {word : String} {source : Source} (h : SourceWord word source) :
    Written ["compile", word] (compile none source)
  | compileFor {provider word : String} {p : Provider} {source : Source}
    (hp : p.Spelled provider) (h : SourceWord word source) :
    Written ["compile", provider, word] (compile (some p) source)
  | request {word : String} {source : Source} (model : String)
    (h : SourceWord word source) : Written ["request", model, word] (request model source)
  | decompile {word : String} {source : Source} (h : SourceWord word source) :
    Written ["decompile", word] (decompile source)
  | route (model : String) : Written ["route", model] (route model)

/-- The commands that take words, with the numbers of words that they take and what is said
of them where the number is another. -/
def usages : List (String × List Nat × String) := [
  ("compile", [1, 2], "compile [provider] <file|->"),
  ("request", [2], "request <model> <file|->"),
  ("decompile", [1], "decompile <file|->"),
  ("route", [1], "route <model>")]

/-- Which words are refused, and with which errors. -/
inductive Refused : List String → Error → Prop
  | provider {provider : String} (h : ∀ p : Provider, ¬ p.Spelled provider)
    (word : String) : Refused ["compile", provider, word] (.unknownProvider provider)
  | usage {name expected : String} {counts : List Nat} {rest : List String}
    (h : (name, counts, expected) ∈ usages) (hcount : rest.length ∉ counts) :
    Refused (name :: rest) (.usage name expected)
  | command {first : String} (hhelp : first ∉ ["help", "-h", "--help"])
    (h : first ∉ ["compile", "request", "decompile", "route"]) (rest : List String) :
    Refused (first :: rest) (.unknownCommand first)

/-! ## Reading words -/

theorem ofWord_of_spelled {word : String} {p : Provider} (h : p.Spelled word) :
    Provider.ofWord word = .ok p := by
  rw [Provider.ofWord, Provider.recognize?_eq_some_iff.mpr h]

theorem ofWord_of_not_spelled {word : String} (h : ∀ p : Provider, ¬ p.Spelled word) :
    Provider.ofWord word = .error (.unknownProvider word) := by
  have hnone : Provider.recognize? word = none := by
    rw [Option.eq_none_iff_forall_ne_some]
    exact fun p hp => h p (Provider.recognize?_eq_some_iff.mp hp)
  rw [Provider.ofWord, hnone]

theorem Written.ofWords {words : List String} {command : Command}
    (h : Written words command) : Command.ofWords words = .ok command := by
  cases h with
  | nothing => rfl
  | help h rest => exact if_pos h
  | compile h => simp [Command.ofWords, helpWords, h.ofWord]
  | compileFor hp h =>
    simp [Command.ofWords, helpWords, ofWord_of_spelled hp, h.ofWord, bind, Except.bind]
  | request model h => simp [Command.ofWords, helpWords, h.ofWord]
  | decompile h => simp [Command.ofWords, helpWords, h.ofWord]
  | route model => simp [Command.ofWords, helpWords]

theorem Refused.ofWords {words : List String} {e : Error} (h : Refused words e) :
    Command.ofWords words = .error e := by
  cases h with
  | provider h word =>
    simp [Command.ofWords, helpWords, ofWord_of_not_spelled h, bind, Except.bind]
  | @usage name expected counts rest h hcount =>
    simp only [usages, List.mem_cons, Prod.mk.injEq, List.not_mem_nil, or_false] at h
    rcases h with ⟨rfl, rfl, rfl⟩ | ⟨rfl, rfl, rfl⟩ | ⟨rfl, rfl, rfl⟩ | ⟨rfl, rfl, rfl⟩
    · match rest with
      | [] => rfl
      | [_] | [_, _] => simp at hcount
      | _ :: _ :: _ :: _ => rfl
    · match rest with
      | [] | [_] => rfl
      | [_, _] => simp at hcount
      | _ :: _ :: _ :: _ => rfl
    · match rest with
      | [] => rfl
      | [_] => simp at hcount
      | _ :: _ :: _ => rfl
    · match rest with
      | [] => rfl
      | [_] => simp at hcount
      | _ :: _ :: _ => rfl
  | @command first hhelp h rest =>
    have hfirst : first ∉ helpWords := hhelp
    simp only [List.mem_cons, List.not_mem_nil, or_false, not_or] at h
    simp [Command.ofWords, hfirst, h]

theorem exists_of_length_eq_two {words : List String} (h : words.length = 2) :
    ∃ first second, words = [first, second] := by
  match words, h with
  | [first, second], _ => exact ⟨first, second, rfl⟩

/-- The right number of words is a command, unless one of them should be a provider and is
none. -/
theorem written_or_refused_of_count {name expected : String} {counts : List Nat}
    {rest : List String} (h : (name, counts, expected) ∈ usages)
    (hcount : rest.length ∈ counts) :
    (∃ command, Written (name :: rest) command) ∨ ∃ e, Refused (name :: rest) e := by
  simp only [usages, List.mem_cons, Prod.mk.injEq, List.not_mem_nil, or_false] at h
  rcases h with ⟨rfl, rfl, rfl⟩ | ⟨rfl, rfl, rfl⟩ | ⟨rfl, rfl, rfl⟩ | ⟨rfl, rfl, rfl⟩
  all_goals simp only [List.mem_cons, List.not_mem_nil, or_false] at hcount
  · rcases hcount with hone | htwo
    · obtain ⟨word, rfl⟩ := List.length_eq_one_iff.mp hone
      exact .inl ⟨_, .compile (sourceWord_ofWord word)⟩
    · obtain ⟨provider, word, rfl⟩ := exists_of_length_eq_two htwo
      by_cases hp : ∃ p : Provider, p.Spelled provider
      · obtain ⟨p, hp⟩ := hp
        exact .inl ⟨_, .compileFor hp (sourceWord_ofWord word)⟩
      · exact .inr ⟨_, .provider (not_exists.mp hp) word⟩
  · obtain ⟨model, word, rfl⟩ := exists_of_length_eq_two hcount
    exact .inl ⟨_, .request model (sourceWord_ofWord word)⟩
  · obtain ⟨word, rfl⟩ := List.length_eq_one_iff.mp hcount
    exact .inl ⟨_, .decompile (sourceWord_ofWord word)⟩
  · obtain ⟨model, rfl⟩ := List.length_eq_one_iff.mp hcount
    exact .inl ⟨_, .route model⟩

/-- The grammar and the errors leave nothing out. -/
theorem written_or_refused (words : List String) :
    (∃ command, Written words command) ∨ ∃ e, Refused words e := by
  cases words with
  | nil => exact .inl ⟨help, .nothing⟩
  | cons first rest =>
    by_cases hhelp : first ∈ ["help", "-h", "--help"]
    · exact .inl ⟨help, .help hhelp rest⟩
    by_cases hname : first ∈ ["compile", "request", "decompile", "route"]
    · obtain ⟨⟨name, counts, expected⟩, husage, rfl⟩ := List.mem_map.mp
        (show first ∈ usages.map Prod.fst from hname)
      by_cases hcount : rest.length ∈ counts
      · exact written_or_refused_of_count husage hcount
      · exact .inr ⟨_, .usage husage hcount⟩
    · exact .inr ⟨_, .command hhelp hname rest⟩

theorem ofWords_eq_ok_iff {words : List String} {command : Command} :
    ofWords words = .ok command ↔ Written words command := by
  constructor
  · intro h
    rcases written_or_refused words with ⟨other, hwritten⟩ | ⟨e, hrefused⟩
    · cases hwritten.ofWords.symm.trans h
      exact hwritten
    · cases hrefused.ofWords.symm.trans h
  · exact Written.ofWords

theorem ofWords_eq_error_iff {words : List String} {e : Error} :
    ofWords words = .error e ↔ Refused words e := by
  constructor
  · intro h
    rcases written_or_refused words with ⟨command, hwritten⟩ | ⟨other, hrefused⟩
    · cases hwritten.ofWords.symm.trans h
    · cases hrefused.ofWords.symm.trans h
      exact hrefused
  · exact Refused.ofWords

/-! ## Words of commands -/

/-- A command is written as its own words. -/
theorem written_words {command : Command} (h : command.source? ≠ some (.file "-")) :
    Written command.words command := by
  cases command with
  | compile provider source =>
    have hsource := sourceWord_word fun hfile => h (congrArg some hfile)
    cases provider with
    | none => exact .compile hsource
    | some p => exact .compileFor p.spelled_name hsource
  | request model source =>
    exact .request model (sourceWord_word fun hfile => h (congrArg some hfile))
  | decompile source =>
    exact .decompile (sourceWord_word fun hfile => h (congrArg some hfile))
  | route model => exact .route model
  | help => exact .help List.mem_cons_self []

/-- Words are read as a command just if it is written so, and refused with an error just if
they are to be refused with it. A word for a provider may have blanks around it and letters
of either case, and a command is read back from its words. -/
theorem ofWords_grammar (words : List String) :
    (∀ command, ofWords words = .ok command ↔ Written words command)
      ∧ (∀ e, ofWords words = .error e ↔ Refused words e)
      ∧ (∀ left word right other : String, (∀ c ∈ left.toList, Text.isBlank c) →
        (∀ c ∈ right.toList, Text.isBlank c) → word.toLower = other.toLower →
        Provider.recognize? (left ++ word ++ right) = Provider.recognize? other)
      ∧ ∀ command : Command, command.source? ≠ some (.file "-") →
        ofWords command.words = .ok command := by
  refine ⟨fun command => ofWords_eq_ok_iff, fun e => ofWords_eq_error_iff, ?_, ?_⟩
  · intro left word right other hleft hright h
    exact Provider.recognize?_of_blanks hleft hright h
  · intro command h
    exact (written_words h).ofWords

/-- A document from standard input for a provider that is written loudly, with white space
around it: the words mean a command, which has plainer words of its own. -/
theorem ofWords_loudGemini :
    ofWords ["compile", "\u2003" ++ "GEMINI" ++ "\n", "-"]
        = .ok (compile (some .gemini) .stdin)
      ∧ Provider.recognize? ("\u2003" ++ "GEMINI" ++ "\n") = Provider.recognize? "gemini"
      ∧ ofWords (compile (some .gemini) .stdin).words
        = .ok (compile (some .gemini) .stdin) := by
  obtain ⟨hok, -, hrecognize, hwords⟩ :=
    ofWords_grammar ["compile", "\u2003" ++ "GEMINI" ++ "\n", "-"]
  have hleft : ∀ c ∈ "\u2003".toList, Text.isBlank c :=
    List.all_eq_true.mp (by decide)
  have hright : ∀ c ∈ "\n".toList, Text.isBlank c :=
    List.all_eq_true.mp (by decide)
  have hsmall : "GEMINI".toLower = "gemini" := by
    decide +kernel
  have hplain : "gemini".toLower = "gemini" := by
    decide +kernel
  have hspelling : "GEMINI".toLower ∈ Provider.gemini.spellings := by
    rw [hsmall]
    exact List.mem_cons_self
  have hspelled := Provider.spelled_append hspelling hleft hright
  have hread := (hok (compile (some .gemini) .stdin)).mpr (.compileFor hspelled .stdin)
  have hsame := hrecognize "\u2003" "GEMINI" "\n" "gemini" hleft hright
    (hsmall.trans hplain.symm)
  exact ⟨hread, hsame, hwords (compile (some .gemini) .stdin) nofun⟩

end Command

end StructuredOutput
