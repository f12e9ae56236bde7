import Mathlib.Data.List.ReduceOption
import Mathlib.Data.List.TakeWhile
import SeamCarving.CommandLine.Arguments

/-!
# How a request is put in words

The words after the command's name are texts and options, and an option may bring its value in the same word or leave
it to the next one. Which phrases a list of words says is a grammar of its own (`Spells`), and so is which request the
phrases are (`Request.InPhrases`). Each kind of word is taken in as the phrase that it says, so that reading all words
is a fold over their phrases (`Reading.addAll_eq_foldlM`). Main statement: words are read as a request exactly if they
put it in words (`readRequest_eq_ok_iff`), and every request can be (`Request.inWords_words`).
-/

namespace SeamCarving.CommandLine

/-! ## Words and phrases -/

/-- The word does not begin with a dash, or is nothing but a dash. -/
def Plain (word : String) : Prop :=
  word.toList = ['-'] ∨ word.toList.head? ≠ some '-'

instance (word : String) : Decidable (Plain word) :=
  inferInstanceAs (Decidable (_ ∨ _))

/-- The word is the name of the option behind two dashes or more. If it brings a value, then behind equals signs. -/
inductive Setting.NamedBy (setting : Setting) (word : String) : Option String → Prop
  | alone (dashes : Nat) (word_eq : word.toList = List.replicate (dashes + 2) '-' ++ setting.name.toList) :
      NamedBy setting word none
  | joined (dashes equals : Nat) (value : List Char) (begins : value.head? ≠ some '=')
      (word_eq : word.toList = List.replicate (dashes + 2) '-' ++
        (setting.name.toList ++ (List.replicate (equals + 1) '=' ++ value))) :
      NamedBy setting word (some (String.ofList value))

/-- A text, or an option with its value or without one. -/
inductive Phrase where
  | text (word : String)
  | option (setting : Setting) (value? : Option String)

/-- The words spell the phrases, one after the other. An option that brings no value takes the next word for it if that
    word is plain. After two dashes that stand alone there are only texts. -/
inductive Spells : List String → List Phrase → Prop
  | nil : Spells [] []
  | text {word : String} {words : List String} {phrases : List Phrase} (plain : Plain word)
      (rest : Spells words phrases) : Spells (word :: words) (.text word :: phrases)
  | joined {word value : String} {words : List String} {phrases : List Phrase} {setting : Setting}
      (named : setting.NamedBy word (some value)) (rest : Spells words phrases) :
      Spells (word :: words) (.option setting (some value) :: phrases)
  | apart {word value : String} {words : List String} {phrases : List Phrase} {setting : Setting}
      (named : setting.NamedBy word none) (plain : Plain value) (rest : Spells words phrases) :
      Spells (word :: value :: words) (.option setting (some value) :: phrases)
  | bare {word : String} {words : List String} {phrases : List Phrase} {setting : Setting}
      (named : setting.NamedBy word none) (waits : ∀ next ∈ words.head?, ¬ Plain next) (rest : Spells words phrases) :
      Spells (word :: words) (.option setting none :: phrases)
  | texts (words : List String) : Spells ("--" :: words) (words.map .text)

namespace Phrase

/-- The text of a phrase that is no option. -/
def text? : Phrase → Option String
  | text word => some word
  | option _ _ => none

/-- The value, or the lack of one, that a phrase gives the option. -/
def use? (setting : Setting) : Phrase → Option (Option String)
  | text _ => none
  | option named value? => if named = setting then some value? else none

/-- All texts among the phrases. -/
def texts (phrases : List Phrase) : List String :=
  phrases.filterMap text?

/-- All uses of an option, each with the value that it brings or without one. -/
def uses (setting : Setting) (phrases : List Phrase) : List (Option String) :=
  phrases.filterMap (use? setting)

section

variable (setting named : Setting) (word : String) (value? : Option String) (phrases more : List Phrase)

@[simp] theorem texts_append : texts (phrases ++ more) = texts phrases ++ texts more :=
  List.filterMap_append

@[simp] theorem texts_text_cons : texts (.text word :: phrases) = word :: texts phrases :=
  rfl

@[simp] theorem texts_option_cons : texts (.option setting value? :: phrases) = texts phrases :=
  rfl

@[simp] theorem texts_nil : texts [] = [] :=
  rfl

@[simp] theorem uses_append : uses setting (phrases ++ more) = uses setting phrases ++ uses setting more :=
  List.filterMap_append

@[simp] theorem uses_text_cons : uses setting (.text word :: phrases) = uses setting phrases :=
  rfl

@[simp] theorem uses_option_cons : uses setting (.option named value? :: phrases) =
    if named = setting then value? :: uses setting phrases else uses setting phrases := by
  by_cases same : named = setting <;> simp [uses, use?, same]

@[simp] theorem uses_nil : uses setting [] = [] :=
  rfl

end

end Phrase

/-- The phrases are the request: two texts, each option used once at most and with a value. Only the rule for the left
    edge may be left open by a use, and is then the one that looks ahead, as without any use. -/
structure Request.InPhrases (request : Request) (phrases : List Phrase) : Prop where
  texts_eq : Phrase.texts phrases = [request.input, request.output]
  width_eq : Phrase.uses .width phrases = request.width.toList.map some
  height_eq : Phrase.uses .height phrases = request.height.toList.map some
  energyMap_eq : Phrase.uses .energyMap phrases = request.energyMap.toList.map some
  leftEdge_eq : Phrase.uses .leftEdge phrases = [some request.leftEdge.name] ∨
    request.leftEdge = .lookahead ∧ (Phrase.uses .leftEdge phrases = [] ∨ Phrase.uses .leftEdge phrases = [none])

/-- The words ask for the request. -/
def Request.InWords (request : Request) (words : List String) : Prop :=
  ∃ phrases, Spells words phrases ∧ request.InPhrases phrases

/-! ## Kinds of words -/

namespace Setting

theorem mem_all (setting : Setting) : setting ∈ all := by
  cases setting <;> decide

theorem find?_name (setting : Setting) : (all.find? fun other => other.name == setting.name) = some setting := by
  cases setting <;> decide

theorem ne_nil_name (setting : Setting) : setting.name.toList ≠ [] := by
  cases setting <;> decide

theorem head?_name_ne (setting : Setting) : setting.name.toList.head? ≠ some '-' := by
  cases setting <;> decide

theorem notMem_name (setting : Setting) : '=' ∉ setting.name.toList := by
  cases setting <;> decide

end Setting

theorem dropWhile_replicate_append {letter : Char} (count : Nat) {rest : List Char} (begins : rest.head? ≠ some letter) :
    (List.replicate count letter ++ rest).dropWhile (· == letter) = rest := by
  rw [List.dropWhile_append_of_pos (by simp)]
  cases rest with
  | nil => rfl
  | cons first rest => rw [List.dropWhile_cons_of_neg (by simpa using begins)]

/-- Letters are those of one kind that come first, and what does not begin with that kind. -/
theorem exists_replicate_append (letter : Char) (letters : List Char) :
    ∃ count, letters = List.replicate count letter ++ letters.dropWhile (· == letter) ∧
      (letters.dropWhile (· == letter)).head? ≠ some letter := by
  have same : ∀ other ∈ letters.takeWhile (· == letter), other = letter := by
    intro other member
    have found := List.mem_takeWhile_imp member
    exact beq_iff_eq.1 found
  refine ⟨(letters.takeWhile (· == letter)).length, ?_, ?_⟩
  · rw [← List.eq_replicate_of_mem same, List.takeWhile_append_dropWhile]
  · intro begins
    have different := List.head?_dropWhile_not (· == letter) letters
    rw [begins] at different
    simp at different

namespace Reading

/-- Takes in what a phrase says. -/
def addPhrase (reading : Reading) : Phrase → Except Stop Reading
  | .text word => reading.addText word
  | .option setting none => .ok (reading.addMention setting)
  | .option setting (some value) => .ok ((reading.addMention setting).addValue setting value)

section

variable (reading : Reading) (setting : Setting) (value : String)

@[simp] theorem texts_addMention : (reading.addMention setting).texts = reading.texts :=
  rfl

@[simp] theorem mentions_addMention : (reading.addMention setting).mentions = reading.mentions ++ [setting] :=
  rfl

@[simp] theorem values_addMention : (reading.addMention setting).values = reading.values :=
  rfl

@[simp] theorem texts_addValue : (reading.addValue setting value).texts = reading.texts :=
  rfl

@[simp] theorem values_addValue : (reading.addValue setting value).values = reading.values ++ [(setting, value)] :=
  rfl

end

variable {reading : Reading} {setting : Setting} {word : String}

theorem addLong_name (reading : Reading) (setting : Setting) (dashes : Nat) (tail : List Char)
    (ends : tail = [] ∨ tail.head? = some '=') :
    reading.addLong (List.replicate dashes '-' ++ (setting.name.toList ++ tail)) =
      .ok (if tail.isEmpty then reading.addMention setting
        else (reading.addMention setting).addValue setting (String.ofList (tail.dropWhile (· == '=')))) := by
  have body_eq : (List.replicate dashes '-' ++ (setting.name.toList ++ tail)).dropWhile (· == '-') =
      setting.name.toList ++ tail := by
    refine dropWhile_replicate_append dashes ?_
    rw [List.head?_append_of_ne_nil _ setting.ne_nil_name]
    exact setting.head?_name_ne
  have inside : ∀ letter ∈ setting.name.toList, (letter != '=') = true := by
    intro letter member
    rw [bne_iff_ne]
    rintro rfl
    exact setting.notMem_name member
  have tail_takeWhile : tail.takeWhile (· != '=') = [] ∧ tail.dropWhile (· != '=') = tail := by
    cases tail with
    | nil => exact ⟨rfl, rfl⟩
    | cons first tail =>
        obtain rfl : first = '=' := by simpa using ends
        exact ⟨rfl, rfl⟩
  simp only [addLong, body_eq, List.takeWhile_append_of_pos inside, List.dropWhile_append_of_pos inside,
    tail_takeWhile, List.append_nil, String.ofList_toList, setting.find?_name]
  split <;> rfl

/-- A word that names an option is taken in as the use of it that it says. -/
theorem add_of_namedBy {value? : Option String} (named : setting.NamedBy word value?) :
    reading.add word = reading.addPhrase (.option setting value?) := by
  cases named with
  | alone dashes word_eq =>
      have long := reading.addLong_name setting (dashes + 2) [] (Or.inl rfl)
      rw [List.append_nil] at long
      rw [add, word_eq]
      exact long
  | joined dashes equals value begins word_eq =>
      have long := reading.addLong_name setting (dashes + 2) (List.replicate (equals + 1) '=' ++ value) (Or.inr rfl)
      rw [dropWhile_replicate_append _ begins] at long
      rw [add, word_eq]
      exact long

theorem add_of_plain (plain : Plain word) :
    reading.add word = match reading.open? with
      | some setting => .ok (reading.addValue setting word)
      | none => reading.addText word := by
  unfold add
  split
  · next here => simp [Plain, here] at plain
  · next here => simp [Plain, here] at plain
  · rfl

/-- A word behind dashes that is taken in names an option. -/
theorem exists_namedBy_of_addLong {rest : List Char} {next : Reading} (word_eq : word.toList = '-' :: '-' :: rest)
    (taken : reading.addLong ('-' :: '-' :: rest) = .ok next) :
    ∃ setting value?, Setting.NamedBy setting word value? := by
  obtain ⟨dashes, rest_eq, -⟩ := exists_replicate_append '-' rest
  have body_eq : ('-' :: '-' :: rest).dropWhile (· == '-') = rest.dropWhile (· == '-') := rfl
  simp only [addLong, body_eq] at taken
  generalize rest.dropWhile (· == '-') = body at taken rest_eq
  split at taken
  · next setting found =>
      have name_eq : setting.name.toList = body.takeWhile (· != '=') := by
        have same := List.find?_some found
        rw [beq_iff_eq.1 same, String.toList_ofList]
      have word_eq' : word.toList = List.replicate (dashes + 2) '-' ++
          (setting.name.toList ++ body.dropWhile (· != '=')) := by
        rw [name_eq, List.takeWhile_append_dropWhile, word_eq, rest_eq]
        rfl
      have stops := List.head?_dropWhile_not (· != '=') body
      cases tail_eq : body.dropWhile (· != '=') with
      | nil =>
          rw [tail_eq, List.append_nil] at word_eq'
          exact ⟨setting, none, .alone dashes word_eq'⟩
      | cons first tail =>
          rw [tail_eq] at word_eq' stops
          obtain rfl : first = '=' := by simpa using stops
          obtain ⟨equals, tail_eq', begins⟩ := exists_replicate_append '=' tail
          rw [tail_eq'] at word_eq'
          exact ⟨setting, _, .joined dashes equals _ begins word_eq'⟩
  · split_ifs at taken

/-- A word that does not end the reading is plain or names an option. -/
theorem plain_or_namedBy {next : Reading} (taken : reading.add word = .ok next) :
    Plain word ∨ ∃ setting value?, Setting.NamedBy setting word value? := by
  unfold add at taken
  split at taken
  · next rest word_eq => exact Or.inr (exists_namedBy_of_addLong word_eq taken)
  · contradiction
  · next long short =>
      refine Or.inl ?_
      unfold Plain
      rcases letters : word.toList with _ | ⟨first, _ | ⟨second, rest⟩⟩
      · simp
      · by_cases dash : first = '-'
        · exact Or.inl (by rw [dash])
        · exact Or.inr (by simpa using dash)
      · refine Or.inr ?_
        intro begins
        obtain rfl : first = '-' := by simpa using begins
        exact short second rest letters

/-! ## The loop over the words -/

theorem open?_addText {next : Reading} {text : String} (taken : reading.addText text = .ok next) :
    next.open? = reading.open? := by
  unfold addText at taken
  split at taken
  · cases taken
    rfl
  · contradiction

theorem ne_dashes_of_plain (plain : Plain word) : word ≠ "--" := by
  rintro rfl
  exact absurd plain (by decide)

theorem ne_dashes_of_namedBy {value? : Option String} (named : setting.NamedBy word value?) : word ≠ "--" := by
  rintro rfl
  have refused : start.add "--" = .error (.refused (.unexpected "--")) := rfl
  rw [add_of_namedBy named] at refused
  cases value? <;> contradiction

theorem foldlM_addText (words : List String) :
    words.foldlM addText reading = (words.map Phrase.text).foldlM addPhrase reading := by
  rw [List.foldlM_map]
  rfl

/-- The words are taken in as the phrases that they say, unless the first of them still belongs to an option that has
    been read before. -/
theorem addAll_eq_foldlM {words : List String} {phrases : List Phrase} (spelt : Spells words phrases)
    (apart : reading.open? = none ∨ ∀ word ∈ words.head?, ¬ Plain word) :
    reading.addAll words = phrases.foldlM addPhrase reading := by
  induction spelt generalizing reading with
  | nil => rfl
  | @text word words phrases plain rest ih =>
      have closed : reading.open? = none := apart.resolve_right fun none_plain => none_plain word rfl plain
      rw [addAll, if_neg (ne_dashes_of_plain plain), add_of_plain plain, closed, List.foldlM_cons]
      change reading.addText word >>= _ = reading.addText word >>= _
      cases taken : reading.addText word with
      | error stop => rfl
      | ok next => exact ih (Or.inl ((open?_addText taken).trans closed))
  | joined named rest ih =>
      rw [addAll, if_neg (ne_dashes_of_namedBy named), add_of_namedBy named, List.foldlM_cons]
      exact ih (Or.inl rfl)
  | @apart word value words phrases setting named plain rest ih =>
      rw [addAll, if_neg (ne_dashes_of_namedBy named), add_of_namedBy named]
      change (reading.addMention setting).addAll (value :: words) = _
      rw [addAll, if_neg (ne_dashes_of_plain plain), add_of_plain plain, List.foldlM_cons]
      exact ih (Or.inl rfl)
  | bare named waits rest ih =>
      rw [addAll, if_neg (ne_dashes_of_namedBy named), add_of_namedBy named, List.foldlM_cons]
      exact ih (Or.inr waits)
  | texts words =>
      rw [addAll, if_pos rfl]
      exact foldlM_addText words

theorem exists_of_addAll_cons {rest : List String} {last : Reading} (other : word ≠ "--")
    (read : reading.addAll (word :: rest) = .ok last) :
    ∃ next : Reading, reading.add word = .ok next ∧ next.addAll rest = .ok last := by
  rw [addAll, if_neg other] at read
  cases taken : reading.add word with
  | error stop =>
      rw [taken] at read
      contradiction
  | ok next =>
      rw [taken] at read
      exact ⟨next, rfl, read⟩

/-- Words that are read spell something. An option may take the word after it along, so this goes by the number of
    words and not by the words one after the other. -/
theorem exists_spells {words : List String} {last : Reading} (read : reading.addAll words = .ok last) :
    ∃ phrases, Spells words phrases := by
  induction count : words.length using Nat.strong_induction_on generalizing words reading with
  | _ count ih =>
    subst count
    cases words with
    | nil => exact ⟨[], .nil⟩
    | cons word rest =>
        by_cases dashes : word = "--"
        · subst dashes
          exact ⟨_, .texts rest⟩
        obtain ⟨next, taken, others⟩ := exists_of_addAll_cons dashes read
        obtain ⟨phrases, spelt⟩ := ih rest.length (Nat.lt_succ_self _) others rfl
        rcases plain_or_namedBy taken with plain | ⟨setting, _ | value, named⟩
        · exact ⟨_, .text plain spelt⟩
        · by_cases waits : ∀ next ∈ rest.head?, ¬ Plain next
          · exact ⟨_, .bare named waits spelt⟩
          · cases rest with
            | nil => simp at waits
            | cons value rest =>
                have plain : Plain value := by simpa using waits
                obtain ⟨_, -, remaining⟩ := exists_of_addAll_cons (ne_dashes_of_plain plain) others
                have fewer : rest.length < (word :: value :: rest).length := by
                  simp only [List.length_cons]
                  omega
                obtain ⟨phrases, spelt⟩ := ih rest.length fewer remaining rfl
                exact ⟨_, .apart named plain spelt⟩
        · exact ⟨_, .joined named spelt⟩

/-! ## What has been read -/

/-- What has been read is what the phrases say. -/
structure Holds (reading : Reading) (phrases : List Phrase) : Prop where
  texts_eq : reading.texts = Phrase.texts phrases
  count_mentions (setting : Setting) : reading.mentions.count setting = (Phrase.uses setting phrases).length
  values_eq (setting : Setting) :
    (reading.values.filter fun use => use.1 = setting).map (·.2) = (Phrase.uses setting phrases).reduceOption

theorem holds_start : start.Holds [] :=
  ⟨rfl, fun _ => rfl, fun _ => rfl⟩

variable {phrases : List Phrase}

theorem Holds.addPhrase {phrase : Phrase} {next : Reading} (holds : reading.Holds phrases)
    (taken : reading.addPhrase phrase = .ok next) : next.Holds (phrases ++ [phrase]) := by
  obtain ⟨texts_eq, count_mentions, values_eq⟩ := holds
  cases phrase with
  | text word =>
      simp only [Reading.addPhrase, addText] at taken
      split at taken
      · cases taken
        exact ⟨by simp [texts_eq], by simpa using count_mentions, by simpa using values_eq⟩
      · contradiction
  | option named value? =>
      have counted (setting : Setting) : (reading.addMention named).mentions.count setting =
          (Phrase.uses setting (phrases ++ [.option named value?])).length := by
        rw [mentions_addMention, List.count_append, List.count_singleton, count_mentions]
        by_cases same : named = setting <;> simp [same]
      cases value? with
      | none =>
          cases taken
          refine ⟨by simpa using texts_eq, counted, ?_⟩
          intro setting
          rw [values_addMention, values_eq]
          by_cases same : named = setting <;> simp [same, List.reduceOption]
      | some value =>
          cases taken
          refine ⟨by simpa using texts_eq, counted, ?_⟩
          intro setting
          rw [values_addValue, values_addMention, List.filter_append, List.map_append, values_eq]
          by_cases same : named = setting <;> simp [same, List.reduceOption]

theorem Holds.foldlM_addPhrase {more : List Phrase} {last : Reading} (holds : reading.Holds phrases)
    (read : more.foldlM Reading.addPhrase reading = .ok last) : last.Holds (phrases ++ more) := by
  induction more generalizing reading phrases with
  | nil =>
      cases read
      rwa [List.append_nil]
  | cons phrase more ih =>
      rw [List.foldlM_cons] at read
      cases taken : reading.addPhrase phrase with
      | error stop =>
          rw [taken] at read
          contradiction
      | ok next =>
          rw [taken] at read
          rw [List.append_cons]
          exact ih (holds.addPhrase taken) read

/-- All phrases are taken in if they have no more than two texts. -/
theorem Holds.exists_foldlM_addPhrase {more : List Phrase} (holds : reading.Holds phrases)
    (few : (Phrase.texts (phrases ++ more)).length ≤ 2) : ∃ last, more.foldlM Reading.addPhrase reading = .ok last := by
  induction more generalizing reading phrases with
  | nil => exact ⟨reading, rfl⟩
  | cons phrase more ih =>
      rw [List.append_cons] at few
      have taken : ∃ next, reading.addPhrase phrase = .ok next := by
        cases phrase with
        | text word =>
            refine ⟨_, if_pos ?_⟩
            rw [holds.texts_eq]
            simp at few
            omega
        | option setting value? => cases value? <;> exact ⟨_, rfl⟩
      obtain ⟨next, taken⟩ := taken
      obtain ⟨last, read⟩ := ih (holds.addPhrase taken) few
      refine ⟨last, ?_⟩
      rw [List.foldlM_cons, taken]
      exact read

/-! ## The request -/

/-- An option that is used well: never, or once with a value that is accepted, or with none if there is a usual one. -/
inductive UsedWell (setting : Setting) : List (Option String) → Prop
  | never : UsedWell setting []
  | bare (usual : setting.usual? ≠ none) : UsedWell setting [none]
  | given {value : String} (accepted : ∀ values ∈ setting.accepted?, value ∈ values) : UsedWell setting [some value]

theorem usual_accepted (setting : Setting) :
    ∀ values ∈ setting.accepted?, ∀ value ∈ setting.usual?, value ∈ values := by
  cases setting <;> decide

theorem misuse?_eq_none_iff (reading : Reading) (setting : Setting) : reading.misuse? setting = none ↔
    reading.unfilled setting = false ∧
    (∀ values ∈ setting.accepted?, ∀ value ∈ reading.valuesOf setting, value ∈ values) ∧
    reading.mentions.count setting ≤ 1 := by
  have refused_iff : (setting.accepted?.bind fun values =>
      (reading.valuesOf setting).find? fun value => !values.contains value) = none ↔
      ∀ values ∈ setting.accepted?, ∀ value ∈ reading.valuesOf setting, value ∈ values := by
    simp [Option.bind_eq_none_iff]
  rw [← refused_iff]
  simp only [misuse?]
  by_cases unfilled : reading.unfilled setting
  · simp [unfilled]
  · rw [if_neg unfilled]
    split
    · next refused =>
        rw [refused]
        simp
    · next accepted =>
        rw [accepted]
        simp [unfilled]

namespace Holds

variable (holds : reading.Holds phrases)
include holds

theorem valuesOf_eq (setting : Setting) : reading.valuesOf setting =
    if (Phrase.uses setting phrases).reduceOption = [] then setting.usual?.toList
    else (Phrase.uses setting phrases).reduceOption := by
  simp only [valuesOf, holds.values_eq, List.isEmpty_iff]

theorem unfilled_eq (setting : Setting) :
    reading.unfilled setting = (!(Phrase.uses setting phrases).isEmpty && (reading.valuesOf setting).isEmpty) := by
  have mentioned_iff : reading.mentioned setting = true ↔ Phrase.uses setting phrases ≠ [] := by
    rw [mentioned, List.contains_iff_mem, ← List.count_pos_iff, holds.count_mentions, List.length_pos_iff]
  rw [unfilled]
  congr 1
  rw [Bool.eq_iff_iff, mentioned_iff]
  simp

theorem misuse?_eq_none_iff (setting : Setting) :
    reading.misuse? setting = none ↔ UsedWell setting (Phrase.uses setting phrases) := by
  rw [Reading.misuse?_eq_none_iff, holds.unfilled_eq, holds.valuesOf_eq, holds.count_mentions]
  have usual := usual_accepted setting
  generalize Phrase.uses setting phrases = used
  match used with
  | [] =>
      constructor
      · intro _
        exact .never
      · intro _
        simpa [List.reduceOption] using usual
  | [none] =>
      constructor
      · rintro ⟨filled, -⟩
        exact .bare (by simpa [List.reduceOption] using filled)
      · intro well
        cases well with
        | bare present => simpa [List.reduceOption, present] using usual
  | [some value] =>
      constructor
      · rintro ⟨-, accepted, -⟩
        exact .given (by simpa [List.reduceOption] using accepted)
      · intro well
        cases well with
        | given accepted => simpa [List.reduceOption] using accepted
  | _ :: _ :: _ =>
      constructor
      · rintro ⟨-, -, once⟩
        simp at once
      · rintro ⟨⟩

/-- The value of an option that no text is the usual value of, if it is used well. -/
theorem head?_valuesOf_iff {setting : Setting} (no_usual : setting.usual? = none) {value? : Option String}
    (well : UsedWell setting (Phrase.uses setting phrases)) :
    (reading.valuesOf setting).head? = value? ↔ Phrase.uses setting phrases = value?.toList.map some := by
  rw [holds.valuesOf_eq, no_usual]
  generalize Phrase.uses setting phrases = used at well
  cases well with
  | never => cases value? <;> simp [List.reduceOption]
  | bare usual => exact absurd no_usual usual
  | given accepted => cases value? <;> simp [List.reduceOption]

end Holds

/-- The rule whose name is the value of the option, or the one that looks ahead if there is no value. -/
theorem Holds.leftEdge_eq_iff (holds : reading.Holds phrases) {rule : LeftEdgeRule}
    (well : UsedWell .leftEdge (Phrase.uses .leftEdge phrases)) :
    reading.leftEdge = rule ↔ Phrase.uses .leftEdge phrases = [some rule.name] ∨
      rule = .lookahead ∧ (Phrase.uses .leftEdge phrases = [] ∨ Phrase.uses .leftEdge phrases = [none]) := by
  rw [leftEdge, holds.valuesOf_eq]
  generalize Phrase.uses .leftEdge phrases = used at well
  cases well with
  | never => cases rule <;> decide
  | bare usual => cases rule <;> decide
  | @given value accepted =>
      have named : value = "lookahead" ∨ value = "previous" := by
        simpa [Setting.accepted?, LeftEdgeRule.all, LeftEdgeRule.name] using accepted
      rcases named with rfl | rfl <;> cases rule <;> decide

/-- A reading comes to a request if there are two texts and no option is misused. -/
theorem request_eq_ok_iff {request : Request} : reading.request = .ok request ↔
    reading.texts = [request.input, request.output] ∧ (∀ setting, reading.misuse? setting = none) ∧
    (reading.valuesOf .width).head? = request.width ∧ (reading.valuesOf .height).head? = request.height ∧
    (reading.valuesOf .energyMap).head? = request.energyMap ∧ reading.leftEdge = request.leftEdge := by
  unfold Reading.request
  split
  · next input output texts_eq =>
      by_cases well : ∀ setting, reading.misuse? setting = none
      · have filled : reading.open?.filter reading.unfilled = none := by
          rw [Option.filter_eq_none_iff]
          intro setting _ unfilled
          rw [((misuse?_eq_none_iff reading setting).1 (well setting)).1] at unfilled
          contradiction
        have none_found : Setting.all.findSome? reading.misuse? = none :=
          List.findSome?_eq_none_iff.2 fun setting _ => well setting
        rw [filled, none_found, texts_eq]
        obtain ⟨input', output', width, height, leftEdge, energyMap⟩ := request
        simp only [Except.ok.injEq, Request.mk.injEq, List.cons.injEq]
        tauto
      · obtain ⟨setting, misused⟩ := not_forall.1 well
        constructor
        · intro read
          split at read
          · contradiction
          · contradiction
          · next none_found =>
              exact absurd (List.findSome?_eq_none_iff.1 none_found setting setting.mem_all) misused
        · rintro ⟨-, used, -⟩
          exact absurd used well
  · next other =>
      constructor
      · intro read
        contradiction
      · rintro ⟨texts_eq, -⟩
        exact absurd texts_eq (other _ _)

end Reading

theorem usedWell_toList {setting : Setting} (free : setting.accepted? = none) (value? : Option String) :
    Reading.UsedWell setting (value?.toList.map some) := by
  cases value? with
  | none => exact .never
  | some value => exact .given (by simp [free])

theorem Request.InPhrases.usedWell {request : Request} {phrases : List Phrase} (asks : request.InPhrases phrases)
    (setting : Setting) : Reading.UsedWell setting (Phrase.uses setting phrases) := by
  cases setting with
  | width => exact asks.width_eq ▸ usedWell_toList rfl _
  | height => exact asks.height_eq ▸ usedWell_toList rfl _
  | energyMap => exact asks.energyMap_eq ▸ usedWell_toList rfl _
  | leftEdge =>
      rcases asks.leftEdge_eq with named | ⟨-, unused | bare⟩
      · rw [named]
        refine .given ?_
        cases request.leftEdge <;> decide
      · exact unused ▸ .never
      · exact bare ▸ .bare (by decide)

theorem Reading.Holds.request_eq_ok_iff {reading : Reading} {phrases : List Phrase} (holds : reading.Holds phrases)
    {request : Request} : reading.request = .ok request ↔ request.InPhrases phrases := by
  rw [Reading.request_eq_ok_iff, holds.texts_eq]
  constructor
  · rintro ⟨texts_eq, well, width_eq, height_eq, energyMap_eq, leftEdge_eq⟩
    have used (setting : Setting) := (holds.misuse?_eq_none_iff setting).1 (well setting)
    exact ⟨texts_eq, (holds.head?_valuesOf_iff rfl (used .width)).1 width_eq,
      (holds.head?_valuesOf_iff rfl (used .height)).1 height_eq,
      (holds.head?_valuesOf_iff rfl (used .energyMap)).1 energyMap_eq,
      (holds.leftEdge_eq_iff (used .leftEdge)).1 leftEdge_eq⟩
  · intro asks
    have used := asks.usedWell
    exact ⟨asks.texts_eq, fun setting => (holds.misuse?_eq_none_iff setting).2 (used setting),
      (holds.head?_valuesOf_iff rfl (used .width)).2 asks.width_eq,
      (holds.head?_valuesOf_iff rfl (used .height)).2 asks.height_eq,
      (holds.head?_valuesOf_iff rfl (used .energyMap)).2 asks.energyMap_eq,
      (holds.leftEdge_eq_iff (used .leftEdge)).2 asks.leftEdge_eq⟩

/-- Words are read as the request that they ask for, and as no other. -/
theorem readRequest_eq_ok_iff {words : List String} {request : Request} :
    readRequest words = .ok request ↔ request.InWords words := by
  have apart : Reading.start.open? = none ∨ ∀ word ∈ words.head?, ¬ Plain word := Or.inl rfl
  have unfolded (last : Reading) (read : Reading.start.addAll words = .ok last) :
      readRequest words = .ok request ↔ last.request = .ok request := by
    cases came : last.request <;> simp [readRequest, read, came, bind, Except.bind]
  constructor
  · intro asked
    cases read : Reading.start.addAll words with
    | error stop =>
        rw [readRequest, read] at asked
        contradiction
    | ok last =>
        obtain ⟨phrases, spelt⟩ := Reading.exists_spells read
        have holds := Reading.holds_start.foldlM_addPhrase ((Reading.addAll_eq_foldlM spelt apart).symm.trans read)
        exact ⟨phrases, spelt, holds.request_eq_ok_iff.1 ((unfolded last read).1 asked)⟩
  · rintro ⟨phrases, spelt, asks⟩
    have few : (Phrase.texts ([] ++ phrases)).length ≤ 2 := by
      rw [List.nil_append, asks.texts_eq]
      rfl
    obtain ⟨last, folded⟩ := Reading.holds_start.exists_foldlM_addPhrase few
    have holds := Reading.holds_start.foldlM_addPhrase folded
    have read := (Reading.addAll_eq_foldlM spelt apart).trans folded
    exact (unfolded last read).2 (holds.request_eq_ok_iff.2 asks)

example : readRequest ["--width==3", "a.png", "---height", "4", "--left-edge=previous", "--", "--b.png"] =
    .ok ⟨"a.png", "--b.png", some "3", some "4", .previous, none⟩ := by
  decide

/-! ## Words for every request -/

/-- Words that give the option a value. A value that begins with a dash has to stand in the word of the option. -/
def Setting.words (setting : Setting) (value : String) : List String :=
  if Plain value then ["--" ++ setting.name, value] else ["--" ++ setting.name ++ "=" ++ value]

/-- The options that a request uses, with their values. -/
def Request.settings (request : Request) : List (Setting × String) :=
  request.width.toList.map (Setting.width, ·) ++ request.height.toList.map (Setting.height, ·) ++
    request.energyMap.toList.map (Setting.energyMap, ·) ++ [(Setting.leftEdge, request.leftEdge.name)]

/-- Words that ask for the request: the options, and behind two dashes the texts, which may begin with dashes. -/
def Request.words (request : Request) : List String :=
  request.settings.flatMap (fun use => use.1.words use.2) ++ ["--", request.input, request.output]

theorem Setting.spells_words (setting : Setting) (value : String) {words : List String} {phrases : List Phrase}
    (rest : Spells words phrases) : Spells (setting.words value ++ words) (.option setting (some value) :: phrases) := by
  unfold Setting.words
  split
  · next plain =>
      refine .apart (.alone 0 ?_) plain rest
      rw [String.toList_append]
      rfl
  · next dashed =>
      have named : setting.NamedBy ("--" ++ setting.name ++ "=" ++ value) (some (String.ofList value.toList)) := by
        refine .joined 0 0 value.toList ?_ ?_
        · intro begins
          exact dashed (Or.inr (by rw [begins]; decide))
        · simp [String.toList_append]
      rw [String.ofList_toList] at named
      exact .joined named rest

/-- Every request can be put in words, whatever its texts are. -/
theorem Request.inWords_words (request : Request) : request.InWords request.words := by
  refine ⟨request.settings.map (fun use => .option use.1 (some use.2)) ++ [.text request.input, .text request.output],
    ?_, ?_⟩
  · unfold Request.words
    induction request.settings with
    | nil => exact .texts [request.input, request.output]
    | cons use settings ih =>
        rw [List.flatMap_cons, List.append_assoc]
        exact use.1.spells_words use.2 ih
  · obtain ⟨input, output, width, height, leftEdge, energyMap⟩ := request
    cases width <;> cases height <;> cases energyMap <;>
      exact ⟨rfl, rfl, rfl, rfl, Or.inl rfl⟩

end SeamCarving.CommandLine
