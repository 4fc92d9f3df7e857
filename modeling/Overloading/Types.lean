/-! # Types

Declared types are type annotations as they are written, static types the types of the target language.
`StaticType.ofDeclared` lowers the former to the latter, and `StaticType.equal` decides whether two static
types are the same. -/

namespace Overloading

/-! ## Handles

Declarations, symbols and nominal types are referred to by their place in the table that holds them.
Each kind of reference is a type of its own, so that one cannot stand for another. -/

/-- A reference to a declaration: its place in the registry, counted from zero. A handle may name a
place that is not taken yet. -/
structure DeclHandle where
  /-- Place of the declaration in the registry. -/
  index : UInt32
deriving DecidableEq

/-- The text of a handle in messages, such as `decl#3`. -/
def DeclHandle.render (handle : DeclHandle) : String :=
  "decl#" ++ toString handle.index.toNat

/-- A reference to a symbol: all declarations that share one name in one scope. -/
structure SymbolId where
  /-- Place of the symbol in the registry. -/
  index : UInt32
deriving DecidableEq

/-- The identity of the declaration behind a nominal type. -/
abbrev TypeId := UInt32

/-- A 64-bit floating-point literal by its bits. Literals are only copied, so the bits say all there
is to say, for NaN and for signed zeros too. -/
abbrev NumberBits := UInt64

/-! ## Declared types

A declared type is a type annotation as it is written in the source, before any name in it is looked
up. The heuristics for call sites read annotations in this form. -/

/-- The type keywords of the source language. -/
inductive TypeKeyword
  | number
  | string
  | boolean
  | void
  | null
  | undefined
  | any
  | unknown
  | never
  | object
deriving DecidableEq

/-- A type annotation as written. -/
inductive DeclaredType
  /-- A keyword such as `number`. -/
  | keyword (word : TypeKeyword)
  /-- A named type with its arguments, and the declaration that the name was bound to, if any. -/
  | reference (name : String) (args : List DeclaredType) (decl : Option TypeId)
  /-- `T[]`. -/
  | array (element : DeclaredType)
  /-- `[A, B]`. -/
  | tuple (elements : List DeclaredType)
  /-- `A | B`. -/
  | union (members : List DeclaredType)
  /-- A string literal used as a type. -/
  | stringLiteral (text : String)
  /-- A number literal used as a type. -/
  | numberLiteral (bits : NumberBits)

/-- The names that spell an array type when they are applied to one argument. -/
def isArrayName (name : String) : Bool := name = "Array" || name = "ReadonlyArray"

/-- The element type of `T[]`, `Array<T>` and `ReadonlyArray<T>`. -/
def DeclaredType.arrayElement? : DeclaredType → Option DeclaredType
  | .array element => some element
  | .reference name [element] _ => if isArrayName name then some element else none
  | _ => none

/-! ## Primitive types

The value types of the target language, with the names of their boxed reference types. -/

/-- The primitive types of the target language. -/
inductive Primitive
  | double
  | single
  | int32
  | int64
  | boolean
  | string
  | char
deriving DecidableEq

namespace Primitive

/-- Name of the boxed type without its namespace. -/
def shortBoxedName : Primitive → String
  | .double => "Double"
  | .single => "Single"
  | .int32 => "Int32"
  | .int64 => "Int64"
  | .boolean => "Boolean"
  | .string => "String"
  | .char => "Char"

/-- Full name of the boxed type. -/
def boxedName (primitive : Primitive) : String := "System." ++ primitive.shortBoxedName

/-- The primitive that a type name of the source spells. -/
def ofReferenceName? : String → Option Primitive
  | "double" => some .double
  | "float" => some .single
  | "int" => some .int32
  | "long" => some .int64
  | "bool" => some .boolean
  | "char" => some .char
  | _ => none

end Primitive

/-! ## Static types

A static type is a type of the target language. `StaticType.ofDeclared` lowers an annotation to the
type that it denotes, given the type parameters in scope; `StaticType.render` writes a static type
for messages. -/

/-- A resolved type of the target language. -/
inductive StaticType
  /-- A value type. -/
  | primitive (kind : Primitive)
  /-- An array. -/
  | array (element : StaticType)
  /-- A tuple. -/
  | tuple (elements : List StaticType)
  /-- A class, interface or the like: the identity of its declaration, if known, its name and its
  type arguments. -/
  | nominal (id : Option TypeId) (name : String) (args : List StaticType)
  /-- One of several types. -/
  | union (members : List StaticType)
  /-- A type parameter that stands for itself. -/
  | typeParam (name : String)
  /-- The type of every value. -/
  | any
  /-- The type of a value of which nothing is known. -/
  | unknown
  /-- The type of no value. -/
  | void
  /-- The type of `null`. -/
  | null
  /-- The type of an implementation parameter that a signature does not declare. It equals no type,
  itself included. -/
  | absent

namespace StaticType

/-- Whether the type marks an undeclared parameter. -/
def isAbsent : StaticType → Bool
  | .absent => true
  | _ => false

/-! ### Text -/

mutual
/-- The text of a type in messages. -/
def render : StaticType → String
  | .primitive kind => kind.boxedName
  | .array element => element.render ++ "[]"
  | .tuple elements => "[" ++ String.intercalate ", " (renderAll elements) ++ "]"
  | .nominal _ name [] => name
  | .nominal _ name args => name ++ "<" ++ String.intercalate ", " (renderAll args) ++ ">"
  | .union members => String.intercalate " | " (renderAll members)
  | .typeParam name => name
  | .any => "any"
  | .unknown => "unknown"
  | .void => "void"
  | .null => "null"
  | .absent => "<absent>"
/-- The texts of several types. -/
def renderAll : List StaticType → List String
  | [] => []
  | type :: types => type.render :: renderAll types
end

/-! ### Lowering -/

/-- The type that a keyword denotes. -/
def ofKeyword : TypeKeyword → StaticType
  | .number => .primitive .double
  | .string => .primitive .string
  | .boolean => .primitive .boolean
  | .void => .void
  | .undefined => .void
  | .never => .void
  | .null => .null
  | .any => .any
  | .object => .any
  | .unknown => .unknown

/-- The type that a named type denotes, its arguments being lowered already. An array name with one
argument is an array. A bare name is a type parameter if one of that name is in scope, and otherwise
the primitive that it spells, unless it was bound to a declaration. All else is nominal. -/
def ofReference (typeParams : List String) (name : String) (decl : Option TypeId) :
    List StaticType → StaticType
  | [element] => if isArrayName name then .array element else .nominal decl name [element]
  | [] =>
    if typeParams.contains name then .typeParam name
    else match decl, Primitive.ofReferenceName? name with
      | none, some kind => .primitive kind
      | _, _ => .nominal decl name []
  | args => .nominal decl name args

mutual
/-- The type that an annotation denotes where `typeParams` are the type parameters in scope. A
literal denotes the type of its value. -/
def ofDeclared (typeParams : List String) : DeclaredType → StaticType
  | .keyword word => ofKeyword word
  | .reference name args decl => ofReference typeParams name decl (ofDeclaredAll typeParams args)
  | .array element => .array (ofDeclared typeParams element)
  | .tuple elements => .tuple (ofDeclaredAll typeParams elements)
  | .union members => .union (ofDeclaredAll typeParams members)
  | .stringLiteral _ => .primitive .string
  | .numberLiteral _ => .primitive .double
/-- The types that several annotations denote. -/
def ofDeclaredAll (typeParams : List String) : List DeclaredType → List StaticType
  | [] => []
  | type :: types => ofDeclared typeParams type :: ofDeclaredAll typeParams types
end

/-- Lowering a list lowers each of its members. -/
@[simp] theorem ofDeclaredAll_eq_map (typeParams : List String) (types : List DeclaredType) :
    ofDeclaredAll typeParams types = types.map (ofDeclared typeParams) := by
  induction types with
  | nil => rfl
  | cons type types ih => simp [ofDeclaredAll, ih]

end StaticType

/-! ## Equality of static types

`StaticType.equal` decides whether two static types are the same type of the target language. It is
coarser than equality of terms, because a primitive is the same type as its boxed form, because
nominal types are told apart by their declarations, and because the members of a union have no order.
It is finer in one point: an absent type is not the same as any type. -/

namespace StaticType

/-- Whether a nominal type is the boxed form of a primitive. Boxed types are known by name only, so a
nominal type with a declaration is a user's type whatever its name is. -/
def isBoxedForm (kind : Primitive) (id : Option TypeId) (name : String) (args : List StaticType) :
    Bool :=
  id.isNone && args.isEmpty && (name = kind.boxedName || name = kind.shortBoxedName)

/-- Whether a type is the given primitive or its boxed form. -/
def denotesPrimitive (kind : Primitive) : StaticType → Bool
  | .primitive other => kind = other
  | .nominal id name args => isBoxedForm kind id name args
  | _ => false

mutual
/-- Whether two types are the same type. Unions are the same if they have equally many members and
each member of one is the same as some member of the other. -/
def equal : StaticType → StaticType → Bool
  | .primitive kind, other => other.denotesPrimitive kind
  | .nominal id name args, .primitive kind => isBoxedForm kind id name args
  | .nominal (some id) _ _, .nominal (some id') _ _ => id = id'
  | .nominal _ name args, .nominal _ name' args' => name = name' && equalEach args args'
  | .array element, .array element' => equal element element'
  | .tuple elements, .tuple elements' => equalEach elements elements'
  | .union members, .union members' =>
    members.length = members'.length && eachIn members members' &&
      members'.all fun member' => anyEqual members member'
  | .typeParam name, .typeParam name' => name = name'
  | .any, .any => true
  | .unknown, .unknown => true
  | .void, .void => true
  | .null, .null => true
  | _, _ => false
/-- Whether two lists are equally long and the same at each place. -/
def equalEach : List StaticType → List StaticType → Bool
  | [], [] => true
  | type :: types, type' :: types' => equal type type' && equalEach types types'
  | _, _ => false
/-- Whether each type of a list is the same as some type of another. -/
def eachIn : List StaticType → List StaticType → Bool
  | [], _ => true
  | type :: types, others => (others.any fun other => equal type other) && eachIn types others
/-- Whether some type of a list is the same as a given one. -/
def anyEqual : List StaticType → StaticType → Bool
  | [], _ => false
  | type :: types, other => equal type other || anyEqual types other
end

/-- `eachIn` as a test on each member. -/
theorem eachIn_eq_all (types others : List StaticType) :
    eachIn types others = types.all fun type => others.any fun other => equal type other := by
  induction types with
  | nil => simp [eachIn]
  | cons type types ih => simp [eachIn, ih]

/-- `anyEqual` as a test on some member. -/
theorem anyEqual_eq_any (types : List StaticType) (other : StaticType) :
    anyEqual types other = types.any fun type => equal type other := by
  induction types with
  | nil => simp [anyEqual]
  | cons type types ih => simp [anyEqual, ih]

/-- `equalEach` as equal lengths and a test on each pair. -/
theorem equalEach_eq_all_zip (types types' : List StaticType) :
    equalEach types types' =
      (decide (types.length = types'.length) &&
        (types.zip types').all fun pair => equal pair.1 pair.2) := by
  induction types generalizing types' with
  | nil => cases types' <;> simp [equalEach]
  | cons type types ih =>
    cases types' with
    | nil => simp [equalEach]
    | cons type' types' =>
      simp only [equalEach, ih, List.length_cons, List.zip_cons_cons, List.all_cons,
        Nat.add_right_cancel_iff]
      cases equal type type' <;> simp

/-- Nothing is the same as an absent type. -/
@[simp] theorem equal_absent (type : StaticType) : equal type .absent = false := by
  cases type <;> simp [equal, denotesPrimitive]

/-- An absent type is not the same as anything. -/
@[simp] theorem absent_equal (type : StaticType) : equal .absent type = false := by
  cases type <;> simp [equal]

end StaticType

end Overloading
