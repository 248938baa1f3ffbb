import PackageAudit.Markup.Entity

/-!
# Writing markup

Tags with attributes, whose values are escaped.
-/

namespace PackageAudit.Markup

/-- An attribute as it is written in a tag. -/
def writeAttribute (attr : String × String) : List Char :=
  ' ' :: attr.1.toList ++ ['=', '"'] ++ escape attr.2.toList ++ ['"']

/-- The name of an element and its attributes. -/
def tagContent (name : String) (attributes : List (String × String)) : List Char :=
  name.toList ++ attributes.flatMap writeAttribute

def startTag (name : String) (attributes : List (String × String)) : List Char :=
  '<' :: tagContent name attributes ++ ['>']

/-- The tag of an element without content. -/
def emptyTag (name : String) (attributes : List (String × String)) : List Char :=
  '<' :: tagContent name attributes ++ ['/', '>']

def endTag (name : String) : List Char :=
  ['<', '/'] ++ name.toList ++ ['>']

end PackageAudit.Markup
