import Overloading.Diagnostic
import Overloading.Types

/-! # The registry of declarations

Every declaration of a compilation unit is recorded once, under a symbol, and never changes
afterwards. The overloads of a function are the declarations of its symbol.

Symbols and declarations are numbered from zero in the order in which they come, in 32 bits. -/

namespace Overloading

/-- What is declared. -/
inductive DeclKind
  | var
  | param
  | property
  | function
  | method
  /-- A call signature of an interface or type literal. -/
  | callSignature
  | ctor
  /-- A `new` signature of an interface or type literal. -/
  | ctorSignature
  | classDecl
  | interfaceDecl
deriving DecidableEq

namespace DeclKind

/-- Whether a plain call can call it. -/
def isFunctionLike : DeclKind → Bool
  | .function | .method | .callSignature => true
  | _ => false

/-- Whether only `new` can call it. -/
def isConstructLike : DeclKind → Bool
  | .ctor | .ctorSignature => true
  | _ => false

end DeclKind

/-- What a declaration says about itself. -/
structure DeclSpec where
  /-- What is declared. -/
  kind : DeclKind
  /-- The annotated type; of a callable, its return type. -/
  declaredType : Option DeclaredType := none
  /-- Whether it is an optional parameter. -/
  isOptional : Bool := false
  /-- Whether it is a rest parameter. -/
  isRest : Bool := false
  /-- The parameters of a callable. -/
  params : List DeclHandle := []
  /-- Where it stands. -/
  span : Span := .dummy

/-- What the registry records about a declaration. -/
structure DeclFacts extends DeclSpec where
  /-- The name of its symbol. -/
  name : String
  /-- The symbol that it is declared under. -/
  symbol : SymbolId

/-- A symbol: a name with its declarations in order. -/
structure SymbolEntry where
  /-- The name. -/
  name : String
  /-- The declarations, earliest first. -/
  decls : List DeclHandle := []

/-- The declarations and symbols of a compilation unit. -/
structure Registry where
  /-- The declarations by handle. -/
  decls : Array DeclFacts := #[]
  /-- The symbols by number. -/
  symbols : Array SymbolEntry := #[]

namespace Registry

/-- A registry that holds nothing. -/
def empty : Registry := {}

/-- Whether a symbol exists. -/
abbrev Knows (registry : Registry) (symbol : SymbolId) : Prop :=
  symbol.index.toNat < registry.symbols.size

/-- Makes a new symbol without declarations. -/
def newSymbol (registry : Registry) (name : String) : Registry × SymbolId :=
  ({ registry with symbols := registry.symbols.push { name } },
    ⟨registry.symbols.size.toUInt32⟩)

/-- Records a declaration under a symbol that exists. -/
def declare (registry : Registry) (symbol : SymbolId) (known : registry.Knows symbol)
    (spec : DeclSpec) : Registry × DeclHandle :=
  let handle : DeclHandle := ⟨registry.decls.size.toUInt32⟩
  let entry := registry.symbols[symbol.index.toNat]
  ({ decls := registry.decls.push { spec with name := entry.name, symbol }
     symbols := registry.symbols.set symbol.index.toNat
       { entry with decls := entry.decls ++ [handle] } },
    handle)

/-- Records a declaration under a symbol, if the symbol exists. -/
def declare? (registry : Registry) (symbol : SymbolId) (spec : DeclSpec) :
    Option (Registry × DeclHandle) :=
  if known : registry.Knows symbol then some (registry.declare symbol known spec) else none

/-- A symbol exists once it is made. -/
theorem knows_newSymbol (registry : Registry) (name : String) :
    (registry.newSymbol name).1.Knows (registry.newSymbol name).2 := by
  have small := Nat.mod_le registry.symbols.size (2 ^ 32)
  simp only [newSymbol, Knows, Array.size_push, Nat.toUInt32, UInt32.toNat_ofNat']
  omega

/-- Records a declaration under a new symbol of its own. -/
def declareUnique (registry : Registry) (name : String) (spec : DeclSpec) :
    Registry × DeclHandle :=
  (registry.newSymbol name).1.declare (registry.newSymbol name).2
    (registry.knows_newSymbol name) spec

/-- The facts of a declaration. -/
def facts? (registry : Registry) (handle : DeclHandle) : Option DeclFacts :=
  registry.decls[handle.index.toNat]?

/-- The annotated type of a declaration. -/
def declaredType? (registry : Registry) (handle : DeclHandle) : Option DeclaredType :=
  (registry.facts? handle).bind fun facts => facts.declaredType

/-- The symbol of a declaration. -/
def symbolOf? (registry : Registry) (handle : DeclHandle) : Option SymbolId :=
  (registry.facts? handle).map fun facts => facts.symbol

/-- The declarations of a symbol in order; none if there is no such symbol. -/
def declarations (registry : Registry) (symbol : SymbolId) : List DeclHandle :=
  match registry.symbols[symbol.index.toNat]? with
  | some entry => entry.decls
  | none => []

/-- The declarations that share the symbol of a declaration, itself among them. -/
def siblings (registry : Registry) (handle : DeclHandle) : List DeclHandle :=
  match registry.symbolOf? handle with
  | some symbol => registry.declarations symbol
  | none => []

/-- The first declaration of the latest symbol with a name. -/
def resolve? (registry : Registry) (name : String) : Option DeclHandle :=
  (registry.symbols.toList.reverse.find? fun entry => entry.name = name).bind fun entry =>
    entry.decls.head?

/-- Number of declarations. -/
def size (registry : Registry) : Nat := registry.decls.size

/-- Whether nothing is declared. -/
def isEmpty (registry : Registry) : Bool := registry.decls.isEmpty

/-- The name of a declaration in messages: its name, or its handle if it is not registered. -/
def nameOf (registry : Registry) (handle : DeclHandle) : String :=
  match registry.facts? handle with
  | some facts => facts.name
  | none => handle.render

end Registry

end Overloading
