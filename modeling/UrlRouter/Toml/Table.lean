import UrlRouter.Document.Basic
import UrlRouter.Toml.Text

/-!
Tables as they grow while text is read. A table is defined once: by its header, or by keys with
dots below one header. A table that is only passed through may still get a header.
-/

namespace UrlRouter.Toml

inductive Origin where
  | header
  | passedThrough
  | dotted
  deriving DecidableEq, Repr

inductive Node where
  | value (d : Document)
  | table (origin : Origin) (fields : List (String × Node))
  | tables (elements : List (List (String × Node)))

abbrev Fields := List (String × Node)

namespace Fields

def get? (name : String) : Fields → Option Node
  | [] => none
  | (k, n) :: fs => if k = name then some n else get? name fs

def put (name : String) (node : Node) : Fields → Fields
  | [] => [(name, node)]
  | (k, n) :: fs => if k = name then (k, node) :: fs else (k, n) :: put name node fs

/-- Changes the table at a path. Tables on the way are made where there are none; an array stands
for its last table. Keys with dots do not enter a table that has a header. -/
def alter (made : Origin) (change : Origin → Fields → Option Fields) :
    List String → Origin → Fields → Option Fields
  | [], origin, fs => change origin fs
  | k :: ks, _, fs =>
      match get? k fs with
      | none => (alter made change ks made []).map fun sub => put k (.table made sub) fs
      | some (.value _) => none
      | some (.table origin sub) =>
          if made = .dotted ∧ origin = .header then none
          else (alter made change ks origin sub).map fun sub => put k (.table origin sub) fs
      | some (.tables ts) =>
          match ts.getLast? with
          | none => none
          | some sub =>
              (alter made change ks .header sub).map fun sub =>
                put k (.tables (ts.dropLast ++ [sub])) fs

/-- Adds a value under a new key. A key with dots ends in a table that only such keys have made. -/
def insertValue (key : Key) (d : Document) (fs : Fields) : Option Fields :=
  alter .dotted
    (fun origin fs =>
      if decide (origin = .dotted) == key.parents.isEmpty then none
      else if (get? key.name fs).isSome then none
      else some (fs ++ [(key.name, .value d)]))
    key.parents .header fs

def insertValues (pairs : List (Key × Document)) (fs : Fields) : Option Fields :=
  pairs.foldlM (fun fs p => insertValue p.1 p.2 fs) fs

end Fields

inductive Header where
  | root
  | table (key : Key)
  | element (key : Key)
  deriving DecidableEq, Repr

structure Part where
  header : Header
  pairs : List (Key × Document)

def Part.addTo (p : Part) (root : Fields) : Option Fields :=
  match p.header with
  | .root => root.insertValues p.pairs
  | .table key =>
      Fields.alter .passedThrough
        (fun _ fs =>
          let start : Option Fields :=
            match Fields.get? key.name fs with
            | none => some []
            | some (.table .passedThrough sub) => some sub
            | some _ => none
          (start.bind (Fields.insertValues p.pairs)).map fun sub =>
            Fields.put key.name (.table .header sub) fs)
        key.parents .header root
  | .element key =>
      Fields.alter .passedThrough
        (fun _ fs =>
          let before : Option (List Fields) :=
            match Fields.get? key.name fs with
            | none => some []
            | some (.tables ts) => some ts
            | some _ => none
          match before, Fields.insertValues p.pairs [] with
          | some ts, some sub => some (Fields.put key.name (.tables (ts ++ [sub])) fs)
          | _, _ => none)
        key.parents .header root

mutual

def Node.toDocument : Node → Document
  | .value d => d
  | .table _ fs => .obj (fieldsToDocument fs)
  | .tables ts => .arr (tablesToDocument ts)

def fieldsToDocument : List (String × Node) → List (String × Document)
  | [] => []
  | (k, n) :: fs => (k, n.toDocument) :: fieldsToDocument fs

def tablesToDocument : List (List (String × Node)) → List Document
  | [] => []
  | t :: ts => .obj (fieldsToDocument t) :: tablesToDocument ts

end

def documentOfParts? (parts : List Part) : Option Document :=
  (parts.foldlM (fun root (p : Part) => p.addTo root) []).map fun root =>
    .obj (fieldsToDocument root)

end UrlRouter.Toml
