import DicePool.Form.Shape
import DicePool.Json.Reader
import DicePool.Text.Utf8

/-!
# Discord/Interaction — what a user asks for

An interaction arrives as a JSON object.  `Interaction.ofJson` accepts it or says what is wrong with it;
`toJson` writes it back, so that only the fields that are known stand in it.  The options of a command
are a list of objects; a first one of type 1 is a subcommand, which holds the options proper.
-/

namespace DicePool.Discord

/-- A user. -/
structure User where
  /-- The id, if it is told. -/
  id : Option String

/-- A member of a guild. -/
structure Member where
  /-- The user who is the member, if told. -/
  user : Option User

/-- The command that is asked for. -/
structure CommandData where
  /-- Its name. -/
  name : Option String
  /-- Its options, each the fields of an object. -/
  options : Option (List (Named Json))

/-- What a user asks for. -/
structure Interaction where
  /-- The id of the interaction. -/
  id : String
  /-- The type of the interaction. -/
  kind : Int
  /-- The token for replies. -/
  token : String
  /-- The application that is asked. -/
  applicationId : String
  /-- The command. -/
  data : Option CommandData
  /-- The guild, if it is asked in one. -/
  guildId : Option String
  /-- The channel, if it is asked in one. -/
  channelId : Option String
  /-- The member who asks, if it is asked in a guild. -/
  member : Option Member
  /-- The user who asks, if it is asked in private. -/
  user : Option User

namespace Interaction

/-! ## Reading -/

/-- The shape of a string that may be absent. -/
def optionalText : Option Json × Shape := (some .null, .nullable (.text none))

/-- The shape of a user. -/
def userShape : Shape := .record [("id", optionalText)]

/-- The shape of an interaction. -/
def shape : Shape :=
  .record
    [("id", none, .text none), ("type", none, .whole none), ("token", none, .text none),
     ("application_id", none, .text none),
     ("data", some .null, .nullable (.record
       [("name", optionalText), ("options", some .null, .nullable (.list .dict))])),
     ("guild_id", optionalText), ("channel_id", optionalText),
     ("member", some .null, .nullable (.record [("user", some .null, .nullable userShape)])),
     ("user", some .null, .nullable userShape)]

/-- A value that is not null. -/
def present : Json → Option Json
  | .null => none
  | v => some v

/-- The user of a checked value. -/
def userOf (v : Json) : User := ⟨(v.fieldD "id").str?⟩

/-- The command of a checked value. -/
def dataOf (v : Json) : CommandData where
  name := (v.fieldD "name").str?
  options := match v.fieldD "options" with
    | .arr items => some (items.map fun o => match o with
      | .obj fields => fields
      | _ => [])
    | _ => none

/-- The interaction of a checked value. -/
def ofChecked (v : Json) : Interaction where
  id := ((v.fieldD "id").str?).getD ""
  kind := ((v.fieldD "type").int?).getD 0
  token := ((v.fieldD "token").str?).getD ""
  applicationId := ((v.fieldD "application_id").str?).getD ""
  data := (present (v.fieldD "data")).map dataOf
  guildId := (v.fieldD "guild_id").str?
  channelId := (v.fieldD "channel_id").str?
  member := (present (v.fieldD "member")).map fun m => ⟨(present (m.fieldD "user")).map userOf⟩
  user := (present (v.fieldD "user")).map userOf

/-- The interaction that a value is, or what is wrong with it. -/
def ofJson (v : Json) : Checked Interaction :=
  (shape.check v).map ofChecked

/-- How deep a body may be nested and how long its numbers may be. -/
def limits : Json.Reader.Limits := { depth := some 200, digits := some 4300, isStrict := true }

/-- The interaction of a body. -/
def ofBytes (body : List UInt8) : Checked Interaction :=
  match (Text.Utf8.decode? body).map (Json.ofChars limits) with
  | some (.ok v) => ofJson v
  | _ => complain .notJson

/-! ## Writing -/

/-- A user as a value. -/
def userJson (u : User) : Json := .obj [("id", Json.strOrNull u.id)]

/-- A member as a value. -/
def memberJson (m : Member) : Json := .obj [("user", Json.ofOption userJson m.user)]

/-- A command as a value. -/
def dataJson (d : CommandData) : Json :=
  .obj [("name", Json.strOrNull d.name),
    ("options", Json.ofOption (fun l : List (Named Json) => .arr (l.map .obj)) d.options)]

/-- An interaction as a value. -/
def toJson (i : Interaction) : Json :=
  .obj [("id", .str i.id), ("type", .int i.kind), ("token", .str i.token),
    ("application_id", .str i.applicationId), ("data", Json.ofOption dataJson i.data),
    ("guild_id", Json.strOrNull i.guildId), ("channel_id", Json.strOrNull i.channelId),
    ("member", Json.ofOption memberJson i.member), ("user", Json.ofOption userJson i.user)]

end Interaction

/-- Why the options of an interaction cannot be taken apart. -/
inductive OptionsError where
  /-- They are a value of this kind, which has no items. -/
  | notIterable (kind : String)
  /-- One of them is a value of this kind, which has no fields. -/
  | noFields (kind : String)
deriving DecidableEq, Repr

/-- The text of the failure. -/
def OptionsError.message : OptionsError → String
  | .notIterable kind => s!"'{kind}' object is not iterable"
  | .noFields kind => s!"'{kind}' object has no attribute 'get'"

namespace Interaction

/-! ## The parts of a command -/

/-- The options as they are listed. -/
def listed (i : Interaction) : List (Named Json) :=
  (i.data.bind (·.options)).getD []

/-- The subcommand that a list of options begins with, if it does. -/
def leading? (options : List (Named Json)) : Option (Named Json) :=
  options.head?.filter fun o => ((o.get? "type").map (Json.isNumber 1)).getD false

/-- The name of the subcommand, as text. -/
def subcommand (i : Interaction) : Option String :=
  (leading? i.listed).bind fun o => match o.get? "name" with
    | none => none
    | some .null => none
    | some (.str s) => some s
    | some v => some v.display

/-- Adds an option to those before it; one without a name does not count. -/
def addOption (options : Named Json) (o : Named Json) : Named Json :=
  match o.get? "name" with
  | some (.str name) => options.put name (o.getD "value" .null)
  | _ => options

/-- The options in a list of values. -/
def collect (options : Named Json) : List Json → Except OptionsError (Named Json)
  | [] => .ok options
  | .obj o :: rest => collect (addOption options o) rest
  | v :: _ => .error (.noFields v.kind)

/-- The options that a value lists; whatever counts as false lists none. -/
def optionsIn (v : Json) : Except OptionsError (Named Json) :=
  if !v.isTruthy then .ok []
  else match v with
    | .arr items => collect [] items
    | .str _ => .error (.noFields (Json.str "").kind)
    | .obj _ => .error (.noFields (Json.str "").kind)
    | v => .error (.notIterable v.kind)

/-- The values of the options by name. -/
def options (i : Interaction) : Except OptionsError (Named Json) :=
  match leading? i.listed with
  | some o => optionsIn (o.getD "options" .null)
  | none => .ok (i.listed.foldl addOption [])

/-- The id of the user who asks: that of the member if there is one, and `0` if there is none. -/
def userId (i : Interaction) : String :=
  let asker := (i.member.bind (·.user)) <|> i.user
  ((asker.bind (·.id)).filter (· ≠ "")).getD "0"

end Interaction

end DicePool.Discord
