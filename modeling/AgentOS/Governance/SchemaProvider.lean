import AgentOS.Governance.Rdf
import AgentOS.Python.Dict
import AgentOS.Python.Numeral

/-!
# Schema provider

Stage 1 of the write gate: the configured ontology domains and the schema definition
served for one of them. Reading an ontology file is the business of `rdflib`; a domain
holds what parsing its two files yields.
-/

namespace AgentOS

open Python

/-- `DomainSchema`: a domain with the outcome of parsing its ontology and shapes files. -/
structure DomainSchema where
  name : Str
  owlGraph : Except Exc Graph
  shaclGraph : Except Exc Graph

/-- An entry of `get_classes`. -/
structure ClassInfo where
  iri : Str
  label : Option Str
  comment : Option Str

/-- An entry of `get_properties`. -/
structure PropertyInfo where
  iri : Str
  type : Str
  label : Option Str
  domain : Option Str
  range : Option Str

/-- The result of `_parse_shacl_property`. -/
structure ShapeProperty where
  path : Option Str
  datatype : Option Str
  minCount : Option ℤ
  maxCount : Option ℤ
  name : Option Str
  description : Option Str

/-- An entry of `get_shacl_shapes`. -/
structure ShapeInfo where
  shapeIri : Str
  targetClass : Option Str
  properties : List ShapeProperty

/-- The payload of `get_schema_definition` for a known domain. -/
structure SchemaDefinition where
  domain : Str
  classes : List ClassInfo
  properties : List PropertyInfo
  shaclShapes : List ShapeInfo

/-- The terms of the RDF, RDFS, OWL and SHACL vocabularies that are looked up. -/
def rdfTerm (name : String) : Term :=
  .uriRef (py "http://www.w3.org/1999/02/22-rdf-syntax-ns#" ++ py name)

@[inherit_doc rdfTerm]
def rdfsTerm (name : String) : Term :=
  .uriRef (py "http://www.w3.org/2000/01/rdf-schema#" ++ py name)

@[inherit_doc rdfTerm]
def owlTerm (name : String) : Term :=
  .uriRef (py "http://www.w3.org/2002/07/owl#" ++ py name)

@[inherit_doc rdfTerm]
def shTerm (name : String) : Term :=
  .uriRef (py "http://www.w3.org/ns/shacl#" ++ py name)

variable (rdf : RdfLib)

/-- `str(term) if term else None`. -/
def strIfTruthy (term : Option Term) : Option Str :=
  match term with
  | some term => if term.truthy rdf then some term.str else none
  | none => none

/-- `int(term) if term is not None else None`. -/
def intOfTerm (term : Option Term) : Except Exc (Option ℤ) :=
  match term with
  | none => .ok none
  | some term =>
      match int term.str with
      | some value => .ok (some value)
      | none => .error (.builtin "ValueError" (py "invalid literal for int() with base 10"))

namespace DomainSchema

variable (schema : DomainSchema)

/-- `get_classes`. -/
def getClasses : Except Exc (List ClassInfo) := do
  let graph ← schema.owlGraph
  return (graph.subjects (rdfTerm "type") (owlTerm "Class")).map fun subject =>
    { iri := subject.str
      label := strIfTruthy rdf (graph.value subject (rdfsTerm "label"))
      comment := strIfTruthy rdf (graph.value subject (rdfsTerm "comment")) }

/-- `get_properties`. -/
def getProperties : Except Exc (List PropertyInfo) := do
  let graph ← schema.owlGraph
  return ["ObjectProperty", "DatatypeProperty"].flatMap fun type =>
    (graph.subjects (rdfTerm "type") (owlTerm type)).map fun subject =>
      { iri := subject.str
        type := py type
        label := strIfTruthy rdf (graph.value subject (rdfsTerm "label"))
        domain := strIfTruthy rdf (graph.value subject (rdfsTerm "domain"))
        range := strIfTruthy rdf (graph.value subject (rdfsTerm "range")) }

/-- `_parse_shacl_property`. -/
def parseShaclProperty (graph : Graph) (shape : Term) : Except Exc ShapeProperty := do
  let text := fun name => strIfTruthy rdf (graph.value shape (shTerm name))
  let minCount ← intOfTerm (graph.value shape (shTerm "minCount"))
  let maxCount ← intOfTerm (graph.value shape (shTerm "maxCount"))
  return { path := text "path", datatype := text "datatype", minCount, maxCount
           name := text "name", description := text "description" }

/-- `get_shacl_shapes`. -/
def getShaclShapes : Except Exc (List ShapeInfo) := do
  let graph ← schema.shaclGraph
  (graph.subjects (rdfTerm "type") (shTerm "NodeShape")).mapM fun subject => do
    let properties ← (graph.objects subject (shTerm "property")).mapM
      (parseShaclProperty rdf graph)
    return { shapeIri := subject.str
             targetClass := strIfTruthy rdf (graph.value subject (shTerm "targetClass"))
             properties }

end DomainSchema

/-- `SchemaProvider`: the domains whose ontology file exists, by name. -/
structure SchemaProvider where
  domains : Dict Str DomainSchema

namespace SchemaProvider

variable (provider : SchemaProvider)

/-- `list_domains`. -/
def listDomains : List Str := provider.domains.keys

/-- `get_domain`. -/
def getDomain (name : Str) : Option DomainSchema := provider.domains.get? name

/-- `get_schema_definition`; `none` stands for the payload with an `error` key. -/
def getSchemaDefinition (domainName : Str) : Except Exc (Option SchemaDefinition) :=
  match provider.getDomain domainName with
  | none => .ok none
  | some schema => do
      let classes ← schema.getClasses rdf
      let properties ← schema.getProperties rdf
      let shaclShapes ← schema.getShaclShapes rdf
      return some { domain := domainName, classes, properties, shaclShapes }

end SchemaProvider

end AgentOS
