import SeamCarving.Seam.LeftEdge

/-!
# Arguments of the command

How the words after the command's name are read: two texts, the options with a value, and the two flags that
only ask for information. A word that cannot be understood ends the reading at once, and so does a flag;
what is missing or given too often is found when all words have been read.
-/

namespace SeamCarving.CommandLine

/-- The options that take a value. -/
inductive Setting where
  | energyMap
  | height
  | leftEdge
  | width
  deriving DecidableEq

namespace Setting

/-- All options, in the order of their names. -/
def all : List Setting := [energyMap, height, leftEdge, width]

/-- The name of the option, which follows two dashes. -/
def name : Setting → String
  | energyMap => "energy-map"
  | height => "height"
  | leftEdge => "left-edge"
  | width => "width"

/-- The option with its value, as messages show it. -/
def shown (setting : Setting) : String :=
  s!"--{setting.name} <{setting.name}>"

/-- The value of an option that is not given one. -/
def usual? : Setting → Option String
  | leftEdge => some (default : LeftEdgeRule).name
  | energyMap | height | width => none

/-- The values that the option accepts, if not every text will do. -/
def accepted? : Setting → Option (List String)
  | leftEdge => some (LeftEdgeRule.all.map LeftEdgeRule.name)
  | energyMap | height | width => none

end Setting

/-- Why the words after the command's name make no sense. -/
inductive UsageError where
  | unexpected (word : String)
  /-- The input or the output is not named. -/
  | missingTexts
  | unaccepted (value : String) (setting : Setting)
  /-- The option is mentioned, and has no value anywhere. -/
  | missingValue (setting : Setting)
  | repeated (setting : Setting)
  deriving DecidableEq

/-- The first line of the complaint. -/
def UsageError.message : UsageError → String
  | unexpected word =>
      s!"error: Found argument '{word}' which wasn't expected, or isn't valid in this context"
  | missingTexts => "error: The following required arguments were not provided:"
  | unaccepted value setting =>
      s!"error: '{value}' isn't a valid value for '{setting.shown}'"
  | missingValue setting =>
      s!"error: The argument '{setting.shown}' requires a value but none was supplied"
  | repeated setting =>
      s!"error: The argument '{setting.shown}' was provided more than once, but cannot be used multiple times"

/-- A picture to be carved, as the command line asks for it. -/
structure Request where
  input : String
  output : String
  /-- The text of the width to carve down to, if one is wanted. -/
  width : Option String
  /-- The text of the height to carve down to, if one is wanted. -/
  height : Option String
  leftEdge : LeftEdgeRule
  /-- The path of the picture of the energies, if one is wanted. -/
  energyMap : Option String
  deriving DecidableEq

/-- Why the reading of the words ends before their end. -/
inductive Stop where
  | help
  | version
  | refused (error : UsageError)
  deriving DecidableEq

/-- What the words read so far come to. -/
structure Reading where
  /-- The texts that belong to no option, in order. -/
  texts : List String
  /-- Each mention of an option, in order. -/
  mentions : List Setting
  /-- Each value of an option, in order. -/
  values : List (Setting × String)
  /-- The option that the next word may be the value of. -/
  open? : Option Setting

namespace Reading

/-- Nothing is read yet. -/
def start : Reading := ⟨[], [], [], none⟩

/-- A text that belongs to no option; there is room for two. -/
def addText (reading : Reading) (text : String) : Except Stop Reading :=
  if reading.texts.length < 2 then
    .ok { reading with texts := reading.texts ++ [text] }
  else
    .error (.refused (.unexpected text))

/-- Mentions an option without its value, which the next word may be. -/
def addMention (reading : Reading) (setting : Setting) : Reading :=
  { reading with mentions := reading.mentions ++ [setting], open? := some setting }

/-- The value of an option that has been mentioned. -/
def addValue (reading : Reading) (setting : Setting) (value : String) : Reading :=
  { reading with values := reading.values ++ [(setting, value)], open? := none }

/-- A word that begins with two dashes: what follows all its leading dashes is a name, up to an equals sign.
    A value begins after all the equals signs that stand together there. -/
def addLong (reading : Reading) (word : List Char) : Except Stop Reading :=
  let body := word.dropWhile (· == '-')
  let name := String.ofList (body.takeWhile (· != '='))
  let rest := body.dropWhile (· != '=')
  match Setting.all.find? fun setting => setting.name == name with
  | some setting =>
      let mentioned := reading.addMention setting
      if rest.isEmpty then .ok mentioned
      else .ok (mentioned.addValue setting (String.ofList (rest.dropWhile (· == '='))))
  | none =>
      if name = "help" then .error .help
      else if name = "version" then .error .version
      else .error (.refused (.unexpected ("--" ++ name)))

/-- A word that begins with one dash: its first letter decides. -/
def shortStop (letter : Char) : Stop :=
  if letter = 'h' then .help
  else if letter = 'V' then .version
  else .refused (.unexpected (String.ofList ['-', letter]))

/-- Takes in one word. A dash alone is a text like any other. -/
def add (reading : Reading) (word : String) : Except Stop Reading :=
  match word.toList with
  | '-' :: '-' :: rest => reading.addLong ('-' :: '-' :: rest)
  | '-' :: letter :: _ => .error (shortStop letter)
  | _ =>
      match reading.open? with
      | some setting => .ok (reading.addValue setting word)
      | none => reading.addText word

/-- Takes in all words. After two dashes that stand alone, every word is a text. -/
def addAll : Reading → List String → Except Stop Reading
  | reading, [] => .ok reading
  | reading, word :: rest =>
      if word = "--" then rest.foldlM addText reading
      else do (← reading.add word).addAll rest

/-- The values of an option, or its usual one if it has none. -/
def valuesOf (reading : Reading) (setting : Setting) : List String :=
  let own := (reading.values.filter fun use => use.1 = setting).map (·.2)
  if own.isEmpty then setting.usual?.toList else own

/-- Whether the option has been mentioned. -/
def mentioned (reading : Reading) (setting : Setting) : Bool :=
  reading.mentions.contains setting

/-- Whether the option is mentioned and has no value at all. Another option may stand where its value should
    be, or the words may end there. -/
def unfilled (reading : Reading) (setting : Setting) : Bool :=
  reading.mentioned setting && (reading.valuesOf setting).isEmpty

/-- What is wrong with the use of one option. -/
def misuse? (reading : Reading) (setting : Setting) : Option UsageError :=
  let refused := setting.accepted?.bind fun accepted =>
    (reading.valuesOf setting).find? fun value => !accepted.contains value
  if reading.unfilled setting then some (.missingValue setting)
  else
    match refused with
    | some value => some (.unaccepted value setting)
    | none => if 1 < reading.mentions.count setting then some (.repeated setting) else none

/-- The rule for the left edge, once its values are known to be accepted. -/
def leftEdge (reading : Reading) : LeftEdgeRule :=
  ((reading.valuesOf .leftEdge).head?.bind fun value =>
    LeftEdgeRule.all.find? fun rule => rule.name == value).getD default

/-- The request that all the words come to. An option that waits for its value at the end is reported before
    any other. -/
def request (reading : Reading) : Except UsageError Request :=
  match reading.texts with
  | [input, output] =>
      match reading.open?.filter reading.unfilled, Setting.all.findSome? reading.misuse? with
      | some setting, _ => .error (.missingValue setting)
      | none, some error => .error error
      | none, none =>
          .ok {
            input
            output
            width := (reading.valuesOf .width).head?
            height := (reading.valuesOf .height).head?
            leftEdge := reading.leftEdge
            energyMap := (reading.valuesOf .energyMap).head? }
  | _ => .error .missingTexts

end Reading

/-- The request that the words after the command's name come to. -/
def readRequest (words : List String) : Except Stop Request := do
  let reading ← Reading.start.addAll words
  match reading.request with
  | .ok request => .ok request
  | .error error => .error (.refused error)

end SeamCarving.CommandLine
