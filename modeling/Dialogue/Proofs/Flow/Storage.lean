import Mathlib
import Dialogue.CommandLine
import Dialogue.Files.Keeping
import Dialogue.Proofs.Flow.Documents
import Dialogue.Proofs.StateMachine.Compiled

/-! # Versions are kept as they are authored

    A version that is put into the database is read from it as its text tells it, whatever the
    database held before, and no other version changes (`getVersion_putVersion`). That is the
    version as it was, unless it was created in a leap second in the middle of a minute
    (`created_mid_minute`); either way it compiles as it did (`compile_asRead`). What has been
    imported lies in the file of the database, which a later command opens. -/

namespace Dialogue.Database

open Json Dialogue.Flow StateMachine

theorem putVersion_eq {db : Database} (h : db.needInsert .versions none = .ok ()) (v : Version) :
    db.putVersion v =
    .ok { db with versions := db.versions.insert v.flowId
                    (((db.versions.get? v.flowId).getD .empty).insert v.id (textOf v)) } :=
  bind_eq_ok.2 ⟨(), h, rfl⟩

theorem versionText?_putVersion {db db' : Database} {v : Version} (h : db.putVersion v = .ok db')
    (f i : String) :
    db'.versionText? f i = if f = v.flowId ∧ i = v.id then some (textOf v)
      else db.versionText? f i := by
  obtain ⟨_, -, h⟩ := bind_eq_ok.1 h
  cases h
  by_cases hf : f = v.flowId
  · subst hf
    by_cases hi : i = v.id
    · simp [versionText?, hi]
    · cases hflow : db.versions.get? v.flowId <;> simp [versionText?, hi, hflow]
  · simp [versionText?, hf]

/-- A version that has been put is read as its text tells it, and all others as they were. -/
theorem getVersion_putVersion {db db' : Database} {v : Version} (h : db.putVersion v = .ok db')
    (f i : String) :
    db'.getVersion f i = if f = v.flowId ∧ i = v.id then .ok (some v.asRead)
      else db.getVersion f i := by
  have htext := versionText?_putVersion h f i
  obtain ⟨_, hinsert, h⟩ := bind_eq_ok.1 h
  obtain ⟨_, htable, -⟩ := bind_eq_ok.1 hinsert
  have htable' : db'.needTable .versions = .ok () := by cases h; exact htable
  by_cases hid : f = v.flowId ∧ i = v.id
  · rw [if_pos hid] at htext ⊢
    simp [getVersion, htable', htext, Version.ofText?_textOf, bind, Except.bind, pure, Except.pure]
  · rw [if_neg hid] at htext ⊢
    simp only [getVersion, htable, htable', htext]

/-- It is read so when the database is opened again. -/
theorem getVersion_reopen_putVersion {db db' : Database} {v : Version}
    (h : db.putVersion v = .ok db') :
    db'.reopen.getVersion v.flowId v.id = .ok (some v.asRead) := by
  have hread := getVersion_putVersion h v.flowId v.id
  rw [if_pos ⟨rfl, rfl⟩] at hread
  obtain ⟨_, -, hread⟩ := bind_eq_ok.1 hread
  exact bind_eq_ok.2 ⟨(), rfl, hread⟩

end Dialogue.Database

namespace Dialogue.StateMachine

open Dialogue.Flow

/-- The machine does not depend on when the version was created. -/
theorem compile_asRead (v : Version) : compile v.asRead = compile v := rfl

end Dialogue.StateMachine

namespace Dialogue.Files

open Dialogue.Flow

/-- What is done one after the other succeeds when each of them does. -/
theorem run_bind_eq_ok {σ ε α β : Type} {k : ExceptT ε (StateM σ) α}
    {f : α → ExceptT ε (StateM σ) β} {s s' : σ} {b : β} :
    (k >>= f).run.run s = (.ok b, s') ↔ ∃ a s₁, k.run.run s = (.ok a, s₁) ∧
      (f a).run.run s₁ = (.ok b, s') := by
  have hbind : (k >>= f).run.run s = match k.run.run s with
      | (.ok a, s₁) => (f a).run.run s₁
      | (.error e, s₁) => (.error e, s₁) := by
    simp only [ExceptT.run_bind, StateT.run_bind]
    rcases k.run.run s with ⟨_ | a, s₁⟩ <;> rfl
  rw [hbind]
  rcases hk : k.run.run s with ⟨e | a, s₁⟩
  · constructor
    · rintro ⟨⟩
    · rintro ⟨a, s₂, ⟨⟩, -⟩
  · constructor
    · exact fun h => ⟨a, s₁, rfl, h⟩
    · rintro ⟨a', s₂, ⟨⟩, h⟩
      exact h

/-! ### Files with databases -/

namespace Keeping

/-- A file lies in none of the folders on the way home. -/
theorem isPrefixOf_home {d : Disk} {place : Place} {n : Node} (h : d.node? place = some n)
    (hn : n ≠ .folder) :
    place.isPrefixOf d.home = false := by
  unfold Disk.node? at h
  split at h
  · cases h
    exact absurd rfl hn
  · rename_i hhome
    exact Bool.eq_false_iff.2 hhome

theorem node?_put {d : Disk} {place : Place} (h : place.isPrefixOf d.home = false) (n : Node) :
    (d.put place n).node? place = some n := by
  simp [Disk.node?, Disk.put, h]

variable {α : Type} {l : Location} {use : Database → Except DbError (α × Change)} {d d' : Disk}
    {a : α} {place : Place}

/-- Where a use changes its database and succeeds, what it made lies in the file. -/
theorem useFile_becomes {w j : Bool} (h : (useFile place w j use).run.run d = (.ok a, d'))
    (hbecomes : ∀ {db a c}, use db = .ok (a, c) → ∃ db', c = .becomes db') :
    ∃ db db', use (Database.reopen db) = .ok (a, .becomes db') ∧
      d'.node? place = some (.database db') := by
  unfold useFile at h
  obtain ⟨d₁, _, ⟨⟩, h⟩ := run_bind_eq_ok.1 h
  split at h
  case h_2 => cases h
  case h_1 db hdb =>
  have hhome := isPrefixOf_home hdb (by simp)
  obtain ⟨⟨a', change⟩, d₂, huse, h⟩ := run_bind_eq_ok.1 h
  cases hu : use db.reopen with
  | error e =>
    rw [hu] at huse
    cases huse
  | ok r =>
  rw [hu] at huse
  cases huse
  obtain ⟨db', rfl⟩ := hbecomes hu
  -- the file would have refused if it were not writable; a journal is removed first
  cases w
  · cases h
  cases j
  · cases h
    exact ⟨db, db', hu, node?_put hhome _⟩
  · obtain ⟨d₃, _, ⟨⟩, h⟩ := run_bind_eq_ok.1 h
    split at h
    · cases h
    · cases h
      exact ⟨db, db', hu, node?_put (d := d.remove _) hhome _⟩

/-- The last part of opening a file: the file is there, or is made. -/
def filePlace (l : Location) (d : Disk) (place : Place) : Keeping Place := do
  match d.node? place, d.node? place.dropLast with
  | some .folder, _ => throw cannotOpen
  | some _, _ => return place
  | none, some .folder =>
    if l.mode ≠ .create then throw cannotOpen
    set (d.put place (.text ""))
    return place
  | none, _ => throw cannotOpen

theorem filePlace_eq_ok {d₁ : Disk} {place' : Place}
    (h : (filePlace l d place').run.run d₁ = (.ok place, d')) : place' = place := by
  unfold filePlace at h
  split at h
  · cases h
  · cases h
    rfl
  · split at h
    · cases h
    · cases h
      rfl
  · cases h

theorem openFile_eq_ok (h : (openFile l).run.run d = (.ok place, d')) :
    d.tidied? l.path = some place := by
  unfold openFile at h
  obtain ⟨_, _, ⟨⟩, h⟩ := run_bind_eq_ok.1 h
  cases hplace : d.tidied? l.path with
  | none =>
    rw [hplace] at h
    cases h
  | some place' =>
  rw [hplace] at h
  dsimp only at h
  split at h
  -- the path that the mode is taken over from is missing, is there, or is not named
  · split at h
    · obtain ⟨_, _, ⟨⟩, h⟩ := run_bind_eq_ok.1 h
    · exact congrArg some (filePlace_eq_ok h)
  · exact congrArg some (filePlace_eq_ok h)

/-- The last part of using a database that lies in a file: through its log, if it has one. -/
def useFound (l : Location) (place : Place) (use : Database → Except DbError (α × Change)) :
    Keeping α := do
  match ← findLog l place with
  | some log => useFile place (← dropLog l place log) false use
  | none =>
    if (← get).isBlank place then startDatabase l place
    useFile place (l.mode ≠ .readOnly) true use

theorem useFound_becomes (h : (useFound l place use).run.run d = (.ok a, d'))
    (hbecomes : ∀ {db a c}, use db = .ok (a, c) → ∃ db', c = .becomes db') :
    ∃ db db', use (Database.reopen db) = .ok (a, .becomes db') ∧
      d'.node? place = some (.database db') := by
  unfold useFound at h
  obtain ⟨log?, d₂, -, h⟩ := run_bind_eq_ok.1 h
  split at h
  -- with a log beside the file, and without one
  · obtain ⟨w, d₃, -, h⟩ := run_bind_eq_ok.1 h
    exact useFile_becomes h hbecomes
  · obtain ⟨_, d₃, -, h⟩ := run_bind_eq_ok.1 h
    split at h
    · obtain ⟨_, d₄, -, h⟩ := run_bind_eq_ok.1 h
      exact useFile_becomes h hbecomes
    · exact useFile_becomes h hbecomes

/-- So it does at a location that is no temporary one. -/
theorem useDatabase_becomes (hl : l.isTemporary = false)
    (h : (useDatabase l use).run.run d = (.ok a, d'))
    (hbecomes : ∀ {db a c}, use db = .ok (a, c) → ∃ db', c = .becomes db') :
    ∃ place db db', d.tidied? l.path = some place ∧
      use (Database.reopen db) = .ok (a, .becomes db') ∧
      d'.node? place = some (.database db') := by
  unfold useDatabase at h
  rw [hl] at h
  obtain ⟨place, d₁, hopen, h⟩ := run_bind_eq_ok.1 h
  -- opening fixes the place, and each way to the file ends in a use of it
  suffices ∃ db db', use (Database.reopen db) = .ok (a, .becomes db') ∧
      d'.node? place = some (.database db') by
    obtain ⟨db, db', huse, hnode⟩ := this
    exact ⟨place, db, db', openFile_eq_ok hopen, huse, hnode⟩
  split at h
  · exact useFile_becomes h hbecomes
  obtain ⟨held, d₂, -, h⟩ := run_bind_eq_ok.1 h
  dsimp only at h
  split at h
  · obtain ⟨_, d₃, -, h⟩ := run_bind_eq_ok.1 h
    exact useFound_becomes h hbecomes
  · exact useFound_becomes h hbecomes

/-- At a temporary location the database is a fresh one, and is not kept. -/
theorem useDatabase_temporary (hl : l.isTemporary = true)
    (h : (useDatabase l use).run.run d = (.ok a, d')) :
    ∃ c, use {} = .ok (a, c) := by
  unfold useDatabase useTemporary at h
  rw [hl] at h
  dsimp only [if_true] at h
  cases hu : use {} with
  | error e =>
    rw [hu] at h
    cases hr : l.isReadOnly <;> rw [hr] at h <;> cases h
  | ok r =>
    rw [hu] at h
    cases hr : l.isReadOnly <;> rw [hr] at h <;> cases h
    exact ⟨r.2, rfl⟩

end Keeping

/-- A disk with the folder that a path lies in, as far as it can be made. -/
def Disk.withParent (d : Disk) (path : String) : Disk :=
  match parentFolder? path with
  | some folder => (d.makeFolders folder).1
  | none => d

end Dialogue.Files

namespace Dialogue.CommandLine

open Json Dialogue.Flow StateMachine Files

variable {config : Config} {path out : String} {d d' : Disk}

theorem ofExcept_eq_ok {α : Type} {r : Except Failure α} {a : α}
    (h : (MonadExcept.ofExcept r : ExceptT Failure (StateM Disk) α).run.run d = (.ok a, d')) :
    r = .ok a ∧ d = d' := by
  cases r with
  | error e => cases h
  | ok b =>
    cases h
    exact ⟨rfl, rfl⟩

theorem mapError_eq_ok {ε α : Type} {f : ε → Failure} {r : StateM Disk (Except ε α)} {a : α} :
    (ExceptT.mk ((·.mapError f) <$> r) : ExceptT Failure (StateM Disk) α).run.run d = (.ok a, d') ↔
      r.run d = (.ok a, d') := by
  change ((r.run d).1.mapError f, (r.run d).2) = (.ok a, d') ↔ _
  rcases r.run d with ⟨e | b, d₁⟩
  · exact ⟨by rintro ⟨⟩, by rintro ⟨⟩⟩
  · exact ⟨by rintro ⟨⟩; rfl, by rintro ⟨⟩; rfl⟩

/-- What an import does with a database: the version is put into it, and it lies at the location
    unless that is a temporary one. -/
theorem putAt_eq_ok {v : Version} (h : (do
      let location ← locate config
      orDatabase
          (FileAccess.useDatabase location fun db => return ("", .becomes (← db.putVersion v))) :
        ExceptT Failure (StateM Disk) String).run.run d = (.ok out, d')) :
    ∃ l db db', Location.ofName config.dbPath = .ok l ∧ Database.putVersion db v = .ok db' ∧
      (l.isTemporary = false → ∃ place, d.tidied? l.path = some place ∧
          d'.node? place = some (.database db')) := by
  obtain ⟨l, d₁, hlocate, h⟩ := run_bind_eq_ok.1 h
  obtain ⟨hlocated, rfl⟩ := ofExcept_eq_ok hlocate
  have hl : Location.ofName config.dbPath = .ok l := by
    cases hname : Location.ofName config.dbPath <;> rw [hname] at hlocated <;> cases hlocated
    rfl
  have huse := mapError_eq_ok.1 h
  cases htemporary : l.isTemporary with
  -- a database in memory is gone after the command
  | true =>
    obtain ⟨c, hc⟩ := Keeping.useDatabase_temporary htemporary huse
    obtain ⟨db', hput, -⟩ := bind_eq_ok.1 hc
    exact ⟨l, {}, db', hl, hput, fun hkept => nomatch htemporary.symm.trans hkept⟩
  -- a file keeps what the command has put
  | false =>
    have hbecomes : ∀ {db : Database} {a c}, (do return ("", Change.becomes (← db.putVersion v)) :
        Except DbError (String × Change)) = .ok (a, c) → ∃ db', c = .becomes db' := by
      intro db a c hc
      obtain ⟨db', -, hc⟩ := bind_eq_ok.1 hc
      cases hc
      exact ⟨db', rfl⟩
    obtain ⟨place, db, db', hplace, hc, hnode⟩ :=
      Keeping.useDatabase_becomes htemporary huse hbecomes
    obtain ⟨db₁, hput, hc⟩ := bind_eq_ok.1 hc
    cases hc
    exact ⟨l, db.reopen, db', hl, hput, fun _ => ⟨place, hplace, hnode⟩⟩

/-- All that an import does when it succeeds. -/
theorem importFile_eq_ok
    (h : (importFile config path : ExceptT Failure (StateM Disk) String).run.run d =
      (.ok out, d')) :
    ∃ text v l db db', d.readText path = .ok text ∧ Version.ofText? text = some v ∧
      importable v = .ok () ∧
      Location.ofName config.dbPath = .ok l ∧ Database.putVersion db v = .ok db' ∧
      (l.isTemporary = false →
        ∃ place, (d.withParent config.dbPath).tidied? l.path = some place ∧
          d'.node? place = some (.database db')) := by
  unfold importFile loadVersion at h
  obtain ⟨v, d₁, hv, h⟩ := run_bind_eq_ok.1 h
  obtain ⟨text, d₂, hfile, hversion⟩ := run_bind_eq_ok.1 hv
  obtain ⟨_, d₃, hchecked, h⟩ := run_bind_eq_ok.1 h
  obtain ⟨hread, rfl⟩ := ofExcept_eq_ok hversion
  obtain ⟨himportable, rfl⟩ := ofExcept_eq_ok hchecked
  obtain ⟨htext, rfl⟩ : d.readText path = .ok text ∧ d = d₂ := Prod.mk.inj (mapError_eq_ok.1 hfile)
  have hv : Version.ofText? text = some v := by
    unfold readVersion at hread
    split at hread
    · cases hread
      assumption
    · cases hread
  -- what is left is the command on the disk with the folder made
  suffices hput : ∃ l db db', Location.ofName config.dbPath = .ok l ∧
      Database.putVersion db v = .ok db' ∧
      (l.isTemporary = false →
        ∃ place, (d.withParent config.dbPath).tidied? l.path = some place ∧
          d'.node? place = some (.database db')) by
    obtain ⟨l, db, db', hput⟩ := hput
    exact ⟨text, v, l, db, db', htext, hv, himportable, hput⟩
  dsimp only at h
  unfold Disk.withParent
  split at h
  · rename_i folder hfolder
    obtain ⟨_, d₄, hmade, h⟩ := run_bind_eq_ok.1 h
    have hmade : ((d.makeFolders folder).2, (d.makeFolders folder).1) = (.ok (), d₄) :=
      mapError_eq_ok.1 hmade
    obtain ⟨-, rfl⟩ := Prod.mk.inj hmade
    simpa only [hfolder] using putAt_eq_ok h
  · rename_i hnone
    cases hfolder : parentFolder? config.dbPath with
    | some folder => exact absurd hfolder (hnone folder)
    | none => exact putAt_eq_ok h

/-- A version is read from its text, and from a database it was put into, whatever that held before,
    as it was, exactly if it was created at an instant. The other versions in the database stay, and
    the version compiles to what it compiled to before. So does a version that was imported and is
    no draft, in the file that the database is kept in. -/
theorem versions_survive (v : Version) :
    (Version.ofText? (textOf v) = some v ↔ v.OfInstant) ∧
    (∀ db : Database, db.needInsert .versions none = .ok () → ∃ db', db.putVersion v = .ok db' ∧
      (db'.getVersion v.flowId v.id = .ok (some v) ↔ v.OfInstant) ∧
      (∀ f i, ¬ (f = v.flowId ∧ i = v.id) → db'.getVersion f i = db.getVersion f i) ∧
      (db'.getVersion v.flowId v.id).map (·.map compile) = .ok (some (compile v))) ∧
    ∀ (config : Config) (path out text : String) (d d' : Disk),
      (importFile config path : ExceptT Failure (StateM Disk) String).run.run d = (.ok out, d') →
      d.readText path = .ok text → Version.ofText? text = some v → v.draft = false →
      ∃ m l db', compile v = .ok m ∧ Location.ofName config.dbPath = .ok l ∧
        (db'.reopen.getVersion v.flowId v.id).map (·.map compile) = .ok (some (.ok m)) ∧
        (l.isTemporary = false →
          ∃ place, (d.withParent config.dbPath).tidied? l.path = some place ∧
            d'.node? place = some (.database db')) := by
  refine ⟨?_, ?_, ?_⟩
  -- the text alone
  · rw [Version.ofText?_textOf, Option.some.injEq, Version.asRead_eq_self_iff]
  -- a row of the database
  · intro db hdb
    have hput := Database.putVersion_eq hdb v
    have hread := Database.getVersion_putVersion hput v.flowId v.id
    rw [if_pos ⟨rfl, rfl⟩] at hread
    refine ⟨_, hput, ?_, ?_, ?_⟩
    · rw [hread, Except.ok.injEq, Option.some.injEq, Version.asRead_eq_self_iff]
    · intro f i hother
      rw [Database.getVersion_putVersion hput, if_neg hother]
    · rw [hread, ← compile_asRead]
      rfl
  · intro config path out text d d' himport htext hv hpublished
    obtain ⟨text', v', l, db, db', htext', hv', himportable, hl, hput, hkept⟩ :=
      importFile_eq_ok himport
    obtain rfl : text = text' := Except.ok.inj (htext.symm.trans htext')
    obtain rfl : v = v' := Option.some.inj (hv.symm.trans hv')
    -- a version that is no draft is imported only if it compiles
    obtain ⟨m, hm⟩ : ∃ m, compile v = .ok m := by
      unfold importable at himportable
      rw [hpublished] at himportable
      cases hcompile : compile v with
      | error e =>
        rw [hcompile] at himportable
        cases himportable
      | ok m => exact ⟨m, rfl⟩
    refine ⟨m, l, db', hm, hl, ?_, hkept⟩
    rw [Database.getVersion_reopen_putVersion hput, ← hm, ← compile_asRead]
    rfl

/-- Booking, created in a leap second after 0:00:30 of 1 January 2025. -/
def createdMidMinute : Version :=
  { booking ["name"] "Hello" with createdAt := some Time.Timestamp.midMinute }

/-- Its text says that it was created half a second after 0:00:31. -/
theorem created_mid_minute :
    (Version.ofText? (textOf createdMidMinute)).map (·.createdAt) =
        some (some ⟨1735689631, 500000000, by decide⟩) ∧
      ¬ ∀ v : Version, Version.ofText? (textOf v) = some v := by
  have htext := Version.ofText?_textOf createdMidMinute
  constructor
  · rw [htext]
    rfl
  · intro hall
    rw [hall createdMidMinute, Option.some.injEq, eq_comm, Version.asRead_eq_self_iff] at htext
    have hinstant : Time.Timestamp.midMinute.IsInstant := htext _ rfl
    exact absurd hinstant (by decide)

/-! ### One version is imported -/

/-- The file of a database that holds nothing, and beside it a text to be imported. -/
def shelf (text : String) : Disk :=
  (({} : Disk).put ["tmp", "dialogue-0", "v1"] (.text text)).put ["tmp", "dialogue-0", "db"]
    (.database {})

theorem useDatabase_shelf (text : String) (use : Database → Except DbError (String × Change))
    {db : Database} (huse : use {} = .ok ("", .becomes db)) :
    ∃ d', (Keeping.useDatabase { path := "db" } use).run.run (shelf text) = (.ok "", d') := by
  let place : Place := ["tmp", "dialogue-0", "db"]
  have hplace : (shelf text).tidied? "db" = some place := by cbv
  have hfile : (shelf text).node? place = some (.database {}) := by cbv
  have hblank : (shelf text).isBlank place = false := by cbv
  have hjournal : (shelf text).leftAt (Disk.beside place journalEnding) = none := by cbv
  have hlog : (shelf text).leftAt (Disk.beside place logEnding) = none := by cbv
  have hfolder : (shelf text).isFolder (Disk.beside place journalEnding) = false := by cbv
  have hopen :
      (Keeping.openFile { path := "db" }).run.run (shelf text) = (.ok place, shelf text) := by
    refine run_bind_eq_ok.2 ⟨shelf text, shelf text, rfl, ?_⟩
    dsimp only
    rw [hplace]
    dsimp only
    rw [hfile]
    rfl
  have hdrop : (Keeping.dropJournal { path := "db" } place).run.run (shelf text) =
      (.ok (), shelf text) := by
    refine run_bind_eq_ok.2 ⟨_, _, rfl, run_bind_eq_ok.2 ⟨_, _, rfl, ?_⟩⟩
    rw [hjournal]
    rfl
  have hfind :
      (Keeping.findLog { path := "db" } place).run.run (shelf text) = (.ok none, shelf text) := by
    refine run_bind_eq_ok.2 ⟨_, _, rfl, ?_⟩
    rw [hlog]
    rfl
  -- opened, found, no journal and no log, written: step after step
  refine ⟨((shelf text).remove (Disk.beside place journalEnding)).put place (.database db), ?_⟩
  refine run_bind_eq_ok.2 ⟨_, _, hopen, ?_⟩
  rw [if_neg (by decide)]
  refine run_bind_eq_ok.2
    ⟨false, _, rfl, run_bind_eq_ok.2 ⟨_, _, hdrop, run_bind_eq_ok.2 ⟨_, _, hfind, ?_⟩⟩⟩
  refine run_bind_eq_ok.2 ⟨_, _, rfl, ?_⟩
  dsimp only
  rw [if_neg (by simp [hblank])]
  refine run_bind_eq_ok.2 ⟨_, _, rfl, ?_⟩
  rw [hfile]
  refine run_bind_eq_ok.2 ⟨("", .becomes db), shelf text, ?_, run_bind_eq_ok.2 ⟨_, _, rfl, ?_⟩⟩
  · change (liftM (use {}) : Keeping _).run.run (shelf text) = _
    rw [huse]
    rfl
  · rw [if_neg (by simp [hfolder])]
    rfl

theorem tidied?_shelf (text : String) :
    ((shelf text).withParent "db").tidied? "db" = some ["tmp", "dialogue-0", "db"] := by
  cbv

theorem readText_shelf (text : String) : (shelf text).readText "v1" = .ok text := by cbv

theorem importFile_shelf {v : Version} {text : String} (htext : Version.ofText? text = some v)
    (h : importable v = .ok ()) :
    ∃ d', (importFile { dbPath := "db" } "v1" : ExceptT Failure (StateM Disk) String).run.run
        (shelf text) = (.ok "", d') := by
  have hparent : parentFolder? "db" = none := by cbv
  have hput := Database.putVersion_eq (rfl : Database.needInsert {} .versions none = .ok ()) v
  obtain ⟨d', huse⟩ := useDatabase_shelf text (fun db => return ("", .becomes (← db.putVersion v)))
    (bind_eq_ok.2 ⟨_, hput, rfl⟩)
  have hload : (loadVersion "v1" : ExceptT Failure (StateM Disk) Version).run.run (shelf text) =
      (.ok v, shelf text) := by
    refine run_bind_eq_ok.2
      ⟨text, shelf text, mapError_eq_ok.2 (congrArg (·, shelf text) (readText_shelf text)), ?_⟩
    rw [readVersion, htext]
    rfl
  refine ⟨d', run_bind_eq_ok.2 ⟨v, shelf text, hload, ?_⟩⟩
  rw [h]
  refine run_bind_eq_ok.2 ⟨(), shelf text, rfl, ?_⟩
  dsimp only
  rw [hparent]
  exact run_bind_eq_ok.2 ⟨{ path := "db" }, shelf text, rfl, mapError_eq_ok.2 huse⟩

/-- Booking is put into a database, and imported into the one on the shelf. -/
theorem booking_survives :
    (∃ db', ({} : Database).putVersion (booking ["name"] "Hello") = .ok db' ∧
      db'.getVersion "booking" "v1" = .ok (some (booking ["name"] "Hello"))) ∧
    ∃ (d' : Disk) (db' : Database), d'.node? ["tmp", "dialogue-0", "db"] = some (.database db') ∧
      ∃ m, (db'.reopen.getVersion "booking" "v1").map (·.map compile) = .ok (some (.ok m)) := by
  obtain ⟨htext, hput, himport⟩ := versions_survive (booking ["name"] "Hello")
  have hinstant : (booking ["name"] "Hello").OfInstant := (Version.asRead_eq_self_iff _).1 rfl
  refine ⟨?_, ?_⟩
  · obtain ⟨db', hdb', hread, -⟩ := hput {} rfl
    exact ⟨db', hdb', hread.2 hinstant⟩
  · have himportable : importable (booking ["name"] "Hello") = .ok () := by
      rw [importable, compile_eq_ok.2 (compiled_booking _ _)]
      rfl
    obtain ⟨d', hd'⟩ := importFile_shelf (htext.2 hinstant) himportable
    obtain ⟨m, l, db', hm, hl, hread, hkept⟩ :=
      himport _ _ _ _ _ _ hd' (readText_shelf _) (htext.2 hinstant) rfl
    obtain rfl : { path := "db" } = l := Except.ok.inj hl
    obtain ⟨place, hplace, hnode⟩ := hkept rfl
    obtain rfl := Option.some.inj ((tidied?_shelf _).symm.trans hplace)
    exact ⟨d', db', hnode, m, hread⟩

end Dialogue.CommandLine
