import SqlBuilder.Options.Number

/-!
# Options

The defaults of a builder: how many rows a page and a chunk have, and the column whose growing
values a chunked walk goes by. Options are read from named values; every field that is refused is
reported, not only the first, and options never change once they are read.
-/

namespace SqlBuilder

structure Options where
  pageSize : Int
  chunkSize : Int
  chunkIndex : String
deriving DecidableEq, Inhabited

namespace Options

def standard : Options :=
  ⟨100, 100, "id"⟩

def readName : Value → Except Problem String
  | .text characters => if characters.isEmpty then .error .tooShort else .ok characters
  | .bytes octets =>
      match octetText? octets with
      | some characters => if characters.isEmpty then .error .tooShort else .ok characters
      | none => .error .invalidOctets
  | _ => .error .notText

def fieldNames : List String :=
  ["page_size", "chunk_size", "chunk_index"]

/-- One field, which has its default unless it is given. -/
def field {α : Type} (given : List (String × Value)) (name : String) (fallback : α)
    (read : Value → Except Problem α) : Except (List (String × Problem)) α :=
  match given.find? fun entry => entry.1 == name with
  | none => .ok fallback
  | some entry =>
      match read entry.2 with
      | .ok value => .ok value
      | .error problem => .error [(name, problem)]

def problems {α : Type} : Except (List (String × Problem)) α → List (String × Problem)
  | .ok _ => []
  | .error problems => problems

/-- Options from named values. -/
def read (given : List (String × Value)) : Except Error Options :=
  let pageSize := field given "page_size" standard.pageSize readPositive
  let chunkSize := field given "chunk_size" standard.chunkSize readPositive
  let chunkIndex := field given "chunk_index" standard.chunkIndex readName
  let unknown := (given.filter fun entry => !fieldNames.contains entry.1).map
    fun entry => (entry.1, Problem.unknownField)
  match pageSize, chunkSize, chunkIndex, unknown with
  | .ok pageSize, .ok chunkSize, .ok chunkIndex, [] => .ok ⟨pageSize, chunkSize, chunkIndex⟩
  | _, _, _, _ =>
      .error (.refusedOptions
        (problems pageSize ++ problems chunkSize ++ problems chunkIndex ++ unknown))

/-- Names of what options are made of, in whose place nothing else can be put. -/
def structuralNames : List String :=
  ["__class__", "__dict__"]

/-- Names of what is known about options in general, which can be read only. -/
def sharedNames : List String :=
  ["__weakref__", "__fields_set__", "__class_vars__", "__private_attributes__", "__signature__"]

/-- No option can be changed. A name that begins with an underscore names no option, so writing to
it changes no option and is let pass, unless the name is taken otherwise. -/
def set (options : Options) (name : String) (_ : Value) : Except Error Options :=
  if structuralNames.contains name then .error .wrongKind
  else if sharedNames.contains name then .error .noAttribute
  else if name.toList.head? = some '_' then .ok options
  else .error (.refusedOptions [(name, .frozen)])

end Options

end SqlBuilder
