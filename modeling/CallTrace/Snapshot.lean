import CallTrace.Elf.Image
import CallTrace.Maps
import CallTrace.Plan
import CallTrace.Session

/-!
# Snapshots

A snapshot of a process serves as an engine: its modules are the mapped files, and their exports
are read from the files.  It cannot run code of the process, so every resolver faults; it keeps
registrations for the plan, and it refuses none by itself.
-/

namespace CallTrace

/-- A process at one moment. -/
structure Snapshot where
  pid : Int
  /-- The files behind the modules. -/
  files : FileTree
  /-- The modules; the place of one in the list is its handle. -/
  modules : List MappedModule
  /-- The file of the main executable, if it is known. -/
  exe : Option String

namespace Snapshot

/-- A mapped module as the engine reports it. -/
def moduleOf (mapped : MappedModule) (handle : Nat) : Module where
  start := mapped.start
  stop := mapped.stop
  preferredName := (Path.ofString mapped.path).fileName?
  path := some mapped.path
  handle := handle

/-- The modules that the engine reports. -/
def reported (snapshot : Snapshot) : List Module :=
  snapshot.modules.mapIdx fun handle mapped => moduleOf mapped handle

/-- Whether a module's file is the main executable. -/
def isExe (snapshot : Snapshot) (m : Module) : Bool :=
  m.path.any fun path => snapshot.exe.any fun exe => Path.ofString path = Path.ofString exe

/-- The module of the main executable; of several with its path the last one counts. -/
def mainModule (snapshot : Snapshot) : Option Module :=
  snapshot.reported.reverse.find? snapshot.isExe

/-- The module that an address belongs to; of several the first one counts. -/
def lookupModule (snapshot : Snapshot) (pc : Address) : Option Module :=
  snapshot.reported.find? (·.contains pc)

/-- The exports of a mapped file at the addresses where the process has them.  Without a mapping of
the file's beginning the addresses of the file stand. -/
def exportsOf (snapshot : Snapshot) (mapped : MappedModule) : Except ImageError (List Export) :=
  (Elf.Image.ofFile snapshot.files mapped.path).map fun image =>
    image.exports (mapped.base.elim 0 image.loadBias)

/-- The exports behind a module's handle; a handle that leads nowhere has none. -/
def exports (snapshot : Snapshot) (m : Module) : Except ImageError (List Export) :=
  match snapshot.modules[m.handle]? with
  | none => .ok []
  | some mapped => snapshot.exportsOf mapped

/-- The snapshot as an engine. -/
def engine (snapshot : Snapshot) : Engine where
  mainModule := snapshot.mainModule
  lookupModule := snapshot.lookupModule
  exports := snapshot.exports
  resolver _ resolver := .error (.notExecutable resolver)
  refusesWrap _ := none
  refusesUnwrap _ := none
  greeting := []

/-! ## Events -/

/-- Reports every module as loaded, to one observer after the other. -/
def replayLoads (snapshot : Snapshot) (run : Run) : Run :=
  run.deliver snapshot.engine (snapshot.reported.map (.loaded · true))

/-- Reports every module as going, the last one first, to one observer after the other. -/
def replayUnloads (snapshot : Snapshot) (run : Run) : Run :=
  run.deliver snapshot.engine (snapshot.reported.reverse.map .unloaded)

/-- Reports that the process is about to exit. -/
def notifyExit (snapshot : Snapshot) (run : Run) : Run := run.deliver snapshot.engine [.exiting]

/-! ## The plan -/

/-- The registrations by address, each with the name of the module there. -/
def rows (snapshot : Snapshot) (run : Run) : List PlanRow :=
  run.registrations.toList.map fun (key, registration) =>
    ⟨key.pc, key.hook, ((snapshot.lookupModule key.pc).map Module.name).getD "",
      registration.data⟩

/-- The plan of a run over the snapshot. -/
def plan (snapshot : Snapshot) (onlyFromApp : Bool) (run : Run) : Plan where
  pid := snapshot.pid
  mainModule := snapshot.mainModule.bind (·.preferredName)
  onlyFromApp := onlyFromApp
  rows := snapshot.rows run

end Snapshot

end CallTrace
