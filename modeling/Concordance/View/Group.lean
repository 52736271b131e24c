import Concordance.Text.Blank
import Concordance.Text.Pieces

/-! Group keys: `field`, `hit:annotation` or `context:…`. A key that is no context key may end in
`:s`, which tells capitals apart, or `:i`. -/

namespace Concordance

structure GroupSpec where
  keys : List String
  deriving DecidableEq, Repr

namespace Group

def contextMark : List Char := "context:".toList

def hitMark : List Char := "hit:".toList

def isContext (key : String) : Bool := contextMark.isPrefixOf key.toList

def hitKey (id : String) : String := String.ofList (hitMark ++ id.toList)

def hitName? (key : String) : Option String :=
  (hitMark.isPrefixOf? key.toList).map String.ofList

def caseMark (sensitive : Bool) : List Char := if sensitive then [':', 's'] else [':', 'i']

def marksCase (key : String) : Bool := [':', 's'].isSuffixOf key.toList

def strip (key : String) : String :=
  let cs := key.toList
  if [':', 's'].isSuffixOf cs || [':', 'i'].isSuffixOf cs then
    String.ofList (cs.take (cs.length - 2))
  else key

end Group

namespace GroupSpec

def parse (text : Option String) : GroupSpec :=
  match text with
  | none => ⟨[]⟩
  | some t =>
    let keys := (Text.pieces ',' t.toList).map Text.trim
    ⟨(keys.filter (!·.isEmpty)).map String.ofList⟩

def contextKeys (g : GroupSpec) : List String := g.keys.filter Group.isContext

def plainKeys (g : GroupSpec) : List String := g.keys.filter (!Group.isContext ·)

/-- The keys that are no context keys, without their case marks. -/
def groupBy (g : GroupSpec) : List String := g.plainKeys.map Group.strip

def caseSensitive (g : GroupSpec) : Bool := !g.plainKeys.isEmpty && g.plainKeys.all Group.marksCase

def ofKeys (groupBy contextKeys : List String) (sensitive : Bool) : GroupSpec :=
  ⟨groupBy.map (fun k => String.ofList (k.toList ++ Group.caseMark sensitive)) ++ contextKeys⟩

def param (g : GroupSpec) : Option String :=
  match Text.joined ',' (g.keys.map String.toList) with
  | [] => none
  | cs => some (String.ofList cs)

end GroupSpec

end Concordance
