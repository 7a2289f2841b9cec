import CallTrace.Engine

/-!
# Enumeration of exports

The entry points that a module offers, from its export table.  Code is entered at its own
address; indirect code at the address that its resolver answers, unless the resolver faults or
answers null; data is never entered.  Several names for one entry are aliases, and the first name
in the table stands for all of them.  Every resolver is called once per entry of the table, also
when its answer turns out to be an alias.
-/

namespace CallTrace.Engine

/-- Calls the resolver of an indirect export. -/
def resolveIndirect (engine : Engine) (symbol : Export) (run : Run) : Option Address × Run :=
  match engine.resolve symbol.addr run with
  | (.ok entry, run) =>
    (if entry = 0 then none else some entry, run.note (.indirected symbol.name symbol.addr entry))
  | (.error fault, run) =>
    (none, (run.note (.resolverFaulted symbol.name symbol.addr fault)).note
      (.indirected symbol.name symbol.addr 0))

/-- The entry address of an export, if it has one. -/
def resolveEntry (engine : Engine) (symbol : Export) (run : Run) : Option Address × Run :=
  match symbol.kind with
  | .code | .both => (some symbol.addr, run)
  | .data => (none, run)
  | .indirect => engine.resolveIndirect symbol run

/-- The resolver that stands behind an export's entry. -/
def resolverOf (symbol : Export) : Option Address :=
  match symbol.kind with
  | .indirect => some symbol.addr
  | .code | .data | .both => none

/-- Goes through a table, `seen` being the entries met before. -/
def enumerateTable (engine : Engine) (seen : List Address) :
    List Export → Run → List ResolvedExport × Run
  | [], run => ([], run)
  | symbol :: rest, run =>
    match engine.resolveEntry symbol run with
    | (none, run) => engine.enumerateTable seen rest run
    | (some entry, run) =>
      if entry ∈ seen then engine.enumerateTable seen rest (run.note (.aliased symbol.name entry))
      else
        let (others, run) := engine.enumerateTable (entry :: seen) rest run
        (⟨symbol.name, entry, resolverOf symbol⟩ :: others, run)

/-- The entry points of a module in the order of its table, each entry once. -/
def enumerate (engine : Engine) (m : Module) (run : Run) : List ResolvedExport × Run :=
  let (table, run) := engine.listExports m run
  engine.enumerateTable [] table run

end CallTrace.Engine
