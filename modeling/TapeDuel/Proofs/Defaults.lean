import Mathlib
import TapeDuel.Proofs.Sessions

/-!
# Settings without configuration files

Whenever a setting is looked up, the schema of configuration files is read first,
even if there are no files, and a schema that could not be read would end the
program. It can be read (`isSome_schemaOf?_configSchema`). Its tokens, the
declarations that they make and what these say are worked out one after the other.
So without files a setting is what the command line says, else its default.

Surroundings that hold some files and nothing else are enough to see a job run
(`Surroundings.ofFiles`).
-/

namespace TapeDuel

namespace App

open Config

/-! ## The schema -/

/-- The tokens of a setting that is a number from `least` on. -/
def numberTokens (name : String) (least : Int) : Tokens :=
  [.name name, .mark "?", .mark ":", .name "int", .mark "&", .mark ">=",
    .scalar (.int least), .lineEnd]

/-- The tokens of a setting that is a text. -/
def textTokens (name : String) : Tokens :=
  [.name name, .mark "?", .mark ":", .name "string", .lineEnd]

/-- The tokens of the schema, which admits no further fields. -/
def schemaTokens : Tokens :=
  [.name "close", .mark "(", .mark "\x7b"] ++ numberTokens "max_steps" 1 ++
    numberTokens "min_tape_length" 2 ++ numberTokens "max_tape_length" 2 ++
    numberTokens "parallelism" 1 ++ textTokens "ledger" ++ textTokens "proxy_addr" ++
    [.mark "\x7d", .mark ")", .lineEnd]

/-- The declaration of a setting. -/
def settingDeclaration (name : String) (value : Expr) : Declaration :=
  .field (.ofString name) true .optional value

/-- The numbers from `least` on. -/
def numberFrom (least : Int) : Expr :=
  .binary .and (.name "int") (.sign (.bound .atLeast) (.scalar (.int least)))

/-- The declarations of the schema. -/
def schemaDeclarations : List Declaration :=
  [.embedded (.call (.name "close") [.struct
    [settingDeclaration "max_steps" (numberFrom 1),
      settingDeclaration "min_tape_length" (numberFrom 2),
      settingDeclaration "max_tape_length" (numberFrom 2),
      settingDeclaration "parallelism" (numberFrom 1),
      settingDeclaration "ledger" (.name "string"),
      settingDeclaration "proxy_addr" (.name "string")]])]

theorem ofText_configSchema :
    Token.ofText (Text.ofString "close(\x7b" ++ configSchema ++ Text.ofString "\x7d)") =
      some schemaTokens := by
  decide +kernel

theorem readDeclarations_schemaTokens :
    (do
      let ts ← afterPackage schemaTokens
      let (ds, _) ← readDeclarations (fuelFor ts) false ts
      return ds) = some schemaDeclarations := by
  cbv

theorem isSome_schemaOf?_configSchema : (schemaOf? configSchema).isSome = true := by
  have hdeclarations : declarations? (Text.ofString "close(\x7b" ++ configSchema ++
      Text.ofString "\x7d)") = some schemaDeclarations := by
    rw [declarations?, ofText_configSchema]
    exact readDeclarations_schemaTokens
  have hlength : (Text.ofString "close(\x7b" ++ configSchema ++
      Text.ofString "\x7d)").length = 171 := by
    decide +kernel
  rw [schemaOf?, valueOf?, hdeclarations, hlength]
  cbv

/-! ## Settings -/

/-- Where no file says anything, nothing is found. -/
theorem first_of_no_files {α : Type} {loader : Loader} (hfiles : loader.files = [])
    (hschema : (schemaOf? loader.schema).isSome = true) (decoder : Value → Option α)
    (zero : α) (path : String) : loader.first decoder zero path = .ok zero := by
  obtain ⟨wanted, hwanted⟩ := Option.isSome_iff_exists.mp hschema
  have hvalues : loader.values = .ok [] := by
    rw [Loader.values, hwanted, hfiles]
    split <;> rfl
  have hlookup : loader.lookup path = .ok [] := by
    rw [Loader.lookup, hvalues]
    cases readPath path <;> rfl
  rw [Loader.first, hlookup]

section NoFiles

variable {w : Surroundings} {o : Options}

theorem first_of_no_directories (hw : w.directories = []) {α : Type}
    (decoder : Value → Option α) (zero : α) (path : String) :
    w.loader.first decoder zero path = .ok zero := by
  have hfiles : w.loader.files = [] := by
    rw [Surroundings.loader, Surroundings.config, hw]
    rfl
  exact first_of_no_files hfiles isSome_schemaOf?_configSchema decoder zero path

theorem chooseInt_of_no_directories (hw : w.directories = []) (flag : Int)
    (path : String) (default : Int) :
    chooseInt w.loader flag path default = .ok (firstGiven 0 [flag, 0, default]) := by
  rw [chooseInt, first_of_no_directories hw]
  rfl

theorem ledgerPath_of_no_directories (hw : w.directories = []) :
    ledgerPath o w.loader = .ok (firstGiven [] [Text.ofString o.ledger, []]) := by
  rw [ledgerPath, chooseText, first_of_no_directories hw]
  rfl

theorem proxy_of_no_directories (hw : w.directories = []) :
    ∃ proxy, w.proxy o = .ok proxy := by
  rw [Surroundings.proxy, Net.proxyAddress, first_of_no_directories hw]
  exact ⟨_, rfl⟩

end NoFiles

/-! ## Nothing but files -/

namespace Surroundings

/-- Surroundings with some files and nothing else. There is a ledger wherever one is
asked for. -/
def ofFiles (files : List (String × Text)) : Surroundings where
  file path :=
    match files.lookup path with
    | some t => .ok t
    | none => .error .missing
  isThere path := (files.lookup path).isSome
  directories := []
  web address := (.error (.plain s!"no way to {address}"), [])
  variable_ _ := []
  processors := 1
  span := ""
  ids n := ⟨n⟩
  ledgerPlace _ path := .ok (some path)

/-- A command line that asks for short tapes and for a recording. -/
def recordingOptions : Options :=
  { maxSteps := 50, minTape := 10, maxTape := 10, ledger := "l.db", record := true }

theorem findsLedger_ofFiles (files : List (String × Text)) (shelf : Shelf) :
    (ofFiles files).FindsLedger recordingOptions shelf (some "l.db") := by
  have hchosen : firstGiven [] [Text.ofString recordingOptions.ledger, []] =
      Text.ofString "l.db" := by
    decide +kernel
  have hpath : (Text.toString? (Text.ofString "l.db")).getD "" = "l.db" := by
    decide +kernel
  refine ⟨Text.ofString "l.db", ?_, by decide +kernel, ?_⟩
  · rw [ledgerPath_of_no_directories rfl, hchosen]
  · rw [hpath]
    rfl

theorem configures_ofFiles (files : List (String × Text)) :
    (ofFiles files).Configures recordingOptions (.between 10 10 50) := by
  refine ⟨50, (10, 10), chooseInt_of_no_directories rfl _ _ _, ?_, rfl⟩
  rw [tapeRange, chooseInt_of_no_directories rfl, chooseInt_of_no_directories rfl]
  rfl

end Surroundings

end App

/-! ## Small bots -/

namespace Bot

/-- A bot that waits. -/
def idle (name : String) : Bot :=
  ⟨name, "[]", #[.linked .whileStart 1, .linked .whileEnd 0]⟩

/-- A bot that leaves the tape. -/
def back (name : String) : Bot :=
  ⟨name, "<", #[.plain .moveBack]⟩

end Bot

end TapeDuel
