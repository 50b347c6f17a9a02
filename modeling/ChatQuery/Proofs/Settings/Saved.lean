import ChatQuery.Settings
import ChatQuery.Proofs.Files.Tree
import ChatQuery.Proofs.Json.Printed

/-!
Settings that are saved and loaded again. The text of settings names all of them, so what is read
back does not depend on the standard values; the environment takes precedence over what was saved.
-/
namespace ChatQuery

lemma fromUTF8?_toByteArray (text : String) : String.fromUTF8? text.toByteArray = some text :=
  dif_pos text.isValidUTF8

namespace Settings

def fields (s : Settings) : Json.Fields :=
  [("token", .ofOption s.token), ("guild_id", .ofOption s.guildId),
    ("channel_id", .ofOption s.channelId), ("close_on_finish", .bool s.closeOnFinish),
    ("env_name", .text s.envName)]

lemma toJson_eq_fields (s : Settings) : s.toJson = .obj s.fields.toJson := by
  simp only [toJson, fields, Json.Fields.toJson, List.map_cons, List.map_nil,
    Json.Simple.toJson_ofOption]
  rfl

/-- All settings are named. -/
def draft (s : Settings) : Draft :=
  ⟨some s.token, some s.guildId, some s.channelId, some s.closeOnFinish, some s.envName⟩

lemma optionalText?_ofOption (o : Option String) :
    Draft.optionalText? (Json.Simple.ofOption o).spelling = some o := by
  cases o with
  | none => rfl
  | some text => exact congrArg (Option.map some) (Json.text?_spelled text)

lemma members?_fields (s : Settings) : Draft.members? s.fields.spelling = some s.draft := by
  have flag (b : Bool) : Draft.flag? (Json.Simple.bool b).spelling = some b := rfl
  have text (name : String) : Draft.text? (Json.Simple.text name).spelling = some name :=
    Json.text?_spelled name
  simp [Draft.members?, fields, Json.Fields.spelling, Json.text?_spelled, Draft.member?,
    Draft.empty, optionalText?_ofOption, flag, text, draft]

/-- The text of settings denotes them, whatever the environment is. -/
theorem ofText?_text (env : Environment) (s : Settings) : ofText? env s.text = some s := by
  rw [ofText?, text, toJson_eq_fields, Json.Fields.ofText?_pretty]
  simp only [members?_fields]
  rfl

variable {σ : Type} {files : Files (StateM σ)} {env : Environment} {s : Settings} {t t' : σ}

/-- Saving ends with the text being written. -/
lemma write_of_save (saved : (save files env s).run t = (.ok (), t')) :
    ∃ u, (files.write (path env) s.text).run u = (.ok (), t') := by
  rw [save, Files.writeInside, StateT.run_bind] at saved
  cases created : (files.createFrom (Path.directories (path env)).reverse).run t with
  | mk result u =>
    rw [created] at saved
    cases result with
    | error e => cases saved
    | ok _ => exact ⟨u, saved⟩

lemma readText_of_save (faithful : files.Faithful)
    (saved : (save files env s).run t = (.ok (), t')) :
    ((files.readText (path env)).run t').1 = .ok s.text := by
  obtain ⟨u, written⟩ := write_of_save saved
  have bytes := faithful written
  rw [Files.readText, StateT.run_bind]
  cases read : (files.read (path env)).run t' with
  | mk result v =>
    rw [read] at bytes
    obtain rfl : result = .ok s.text.toUTF8 := bytes
    simp only [bind, String.toUTF8_eq_toByteArray, fromUTF8?_toByteArray]
    rfl

/-- Settings that were saved are loaded as they were, in the same environment, but for the token,
the guild and the channel that the environment gives. -/
theorem load_of_save (faithful : files.Faithful)
    (saved : (save files env s).run t = (.ok (), t')) :
    ((load files env).run t').1 =
      { s with
        token := env.token.or s.token
        guildId := env.guild.or s.guildId
        channelId := env.channel.or s.channelId } := by
  have text := readText_of_save faithful saved
  rw [load, StateT.run_bind]
  cases read : (files.readText (path env)).run t' with
  | mk result u =>
    rw [read] at text
    obtain rfl : result = .ok s.text := text
    change (ofText env s.text).applyEnvironment env = _
    rw [ofText, ofText?_text]
    rfl

/-- Settings with quotes and control characters, of which the environment replaces the channel. -/
theorem load_of_save_tree :
    let env : Environment := ⟨some "/work", some "test", none, none, some "364140226775784869"⟩
    let s : Settings := ⟨some "\"\\\x01\n", none, some "228666916018118541", false, "other"⟩
    FileTree.files.Faithful ∧ ∃ t, (save FileTree.files env s).run .start = (.ok (), t) ∧
      ((load FileTree.files env).run t).1 =
        ⟨some "\"\\\x01\n", none, some "364140226775784869", false, "other"⟩ := by
  intro env s
  have succeeds : ((save FileTree.files env s).run .start).1 = .ok () := by decide +kernel
  cases saved : (save FileTree.files env s).run .start with
  | mk result t =>
    rw [saved] at succeeds
    obtain rfl : result = .ok () := succeeds
    exact ⟨FileTree.files_faithful, t, rfl, load_of_save FileTree.files_faithful saved⟩

end Settings

end ChatQuery
