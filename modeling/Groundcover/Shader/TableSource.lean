import Groundcover.Shader.Lines
import Groundcover.Shader.Options
import Groundcover.Tables

/-!
The source of the tables: a structure for each kind of row, an array of the rows, and a function
that gives a row by its number. The language has no arrays of length zero, so an empty table is
written with one row of zeros.
-/

namespace Groundcover

namespace ShaderOptions

def versionLine (o : ShaderOptions) : String := "#version " ++ toString o.version.toNat

end ShaderOptions

namespace TableSource

/-- A call, as rows of tables are written. -/
def call (function : String) (arguments : List String) : String :=
  function ++ "(" ++ ", ".intercalate arguments ++ ")"

def biomeFields : List String :=
  ["int firstBillboardIndex", "int numBillboards", "float density", "float fill"]

def billboardFields : List String := ["int arrayIndex", "float width", "float height"]

def structLines (typeName : String) (fields : List String) : List String :=
  ("struct " ++ typeName ++ " \x7b") :: fields.map (fun f => "    " ++ f ++ ";") ++ ["\x7d;"]

/-- Rows below one another, a comma behind each but the last. -/
def rowLines : List String → List String
  | [] => []
  | [row] => ["    " ++ row]
  | row :: rest => ("    " ++ row ++ ",") :: rowLines rest

/-- A constant array; its length stands in its type and in its constructor. -/
def arrayLines (typeName name : String) (rows : List String) : List String :=
  let size := "[" ++ toString rows.length ++ "]"
  ("const " ++ typeName ++ " " ++ name ++ size ++ " = " ++ typeName ++ size ++ "(")
    :: rowLines rows ++ [");"]

/-- A function that hands out a row of the table. -/
def accessorLines (function typeName param table : String) : List String :=
  ["void " ++ function ++ "(in int index, out " ++ typeName ++ " " ++ param ++ ") \x7b",
    "    " ++ param ++ " = " ++ table ++ "[index];", "\x7d"]

/-- A table without rows shows one row in their place. -/
def orSentinel (sentinel : String) (rows : List String) : List String :=
  if rows.isEmpty then [sentinel] else rows

def biomeRow (typeName : String) (r : BiomeRecord) : String :=
  call typeName [toString r.first, toString r.count, r.density.literal, r.fill.literal]

def billboardRow (typeName : String) (r : BillboardRecord) : String :=
  call typeName [toString r.index, r.width.literal, r.height.literal]

def biomeLines (o : ShaderOptions) (rows : List BiomeRecord) : List String :=
  let type := o.declared .biome
  let table := o.declared .biomes
  structLines type biomeFields
    ++ arrayLines type table
      (orSentinel (call type ["0", "0", "0.0", "0.0"]) (rows.map (biomeRow type)))
    ++ accessorLines (o.declared .getBiome) type "biome" table

def billboardLines (o : ShaderOptions) (rows : List BillboardRecord) : List String :=
  let type := o.declared .billboard
  let table := o.declared .billboards
  structLines type billboardFields
    ++ arrayLines type table
      (orSentinel (call type ["0", "0.0", "0.0"]) (rows.map (billboardRow type)))
    ++ accessorLines (o.declared .getBillboard) type "billboard" table

def lines (o : ShaderOptions) (t : Tables) : List String :=
  o.versionLine :: biomeLines o t.biomes ++ "" :: billboardLines o t.billboards

end TableSource

namespace Tables

/-- The source of both tables. -/
def source (t : Tables) (o : ShaderOptions) : String := unlines (TableSource.lines o t)

end Tables

end Groundcover
