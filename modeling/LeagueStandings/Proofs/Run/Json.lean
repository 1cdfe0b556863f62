import LeagueStandings.Proofs.FileTree
import LeagueStandings.Run.Basic

/-!
# Files of JSON

What writing and reading a file of JSON do to the world. Writing changes the files and nothing else,
and once it has succeeded the path leads to the text that was written; reading changes nothing.
-/

namespace LeagueStandings.Run

variable {α β : Type} {world written : World} {path : String}

/-! ## Single steps -/

theorem exec_pure (a : α) (world : World) : (pure a : Run α).exec world = (.ok a, world) := rfl

theorem exec_throw (failure : Failure) (world : World) :
    (throw failure : Run α).exec world = (.error failure, world) := rfl

theorem exec_get (world : World) : (get : Run World).exec world = (.ok world, world) := rfl

theorem exec_set (written world : World) :
    (set written : Run Unit).exec world = (.ok (), written) := rfl

theorem exec_report (level : Level) (message : String) (world : World) :
    (report level message).exec world =
      (.ok (), { world with events := world.events ++ [⟨level, message⟩] }) := rfl

theorem exec_ofExcept (result : Except Failure α) (world : World) :
    (ofExcept result).exec world = (result, world) := by
  cases result <;> rfl

/-- A run goes on from the world that its first step leaves, unless that step fails. -/
theorem exec_bind (run : Run α) (next : α → Run β) (world : World) :
    (run >>= next).exec world =
      match run.exec world with
      | (.ok a, after) => (next a).exec after
      | (.error failure, after) => (.error failure, after) := by
  change ExceptT.bindCont next (run.exec world).1 (run.exec world).2 = _
  rcases run.exec world with ⟨result, after⟩
  cases result <;> rfl

/-! ## Writing and reading -/

theorem exec_writeJson (path : String) (value : Json) (world : World) :
    (writeJson path value).exec world =
      ((world.files.writeInPlace path (Utf8.encode value.pretty)).2.mapError .file,
        { world with
          files := (world.files.writeInPlace path (Utf8.encode value.pretty)).1 }) := by
  simp only [writeJson, exec_bind, exec_get, exec_set, exec_ofExcept]

/-- **A file that was written** holds the text of the value. -/
theorem read_of_writeJson {value : Json}
    (h : (writeJson path value).exec world = (.ok (), written)) :
    written.files.read path = .ok (Utf8.encode value.pretty) := by
  rw [exec_writeJson] at h
  obtain ⟨hresult, rfl⟩ := Prod.mk.inj h
  rcases hwrite : world.files.writeInPlace path (Utf8.encode value.pretty) with ⟨files, result⟩
  rw [hwrite] at hresult
  cases result with
  | error e => cases hresult
  | ok _ => exact FileTree.read_of_writeInPlace hwrite

/-- **Reading a file** decodes its bytes and leaves the world as it is. -/
theorem exec_readJson (decoder : JsonTree.Decoder α) {bytes : List UInt8}
    (h : world.files.read path = .ok bytes) :
    (readJson decoder path).exec world =
      ((JsonTree.decode? decoder bytes).elim (.error .malformedJson) .ok, world) := by
  simp only [readJson, exec_bind, exec_get, h, Except.mapError, exec_ofExcept]
  cases JsonTree.decode? decoder bytes with
  | none => exact exec_throw _ world
  | some a => exact exec_pure a world

end LeagueStandings.Run
