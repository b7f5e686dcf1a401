import NumberingPlan.Source.Draft

/-! A whole source file: notice, generation comment, package, imports and the class around its
body. -/
namespace NumberingPlan.Source

/-- What frames a generated class. -/
structure Header where
  className : String
  package : String
  generatorName : String
  copyrightYear : Int
  deriving Repr

/-- The notice at the head of the file. -/
def notice (year : Int) : String :=
  "/*\n" ++
  s!" * Copyright (C) {year} The Libphonenumber Authors\n" ++
  " *\n" ++
  " * Licensed under the Apache License, Version 2.0 (the \"License\");\n" ++
  " * you may not use this file except in compliance with the License.\n" ++
  " * You may obtain a copy of the License at\n" ++
  " *\n" ++
  " * http://www.apache.org/licenses/LICENSE-2.0\n" ++
  " *\n" ++
  " * Unless required by applicable law or agreed to in writing, software\n" ++
  " * distributed under the License is distributed on an \"AS IS\" BASIS,\n" ++
  " * WITHOUT WARRANTIES OR CONDITIONS OF ANY KIND, either express or implied.\n" ++
  " * See the License for the specific language governing permissions and\n" ++
  " * limitations under the License.\n" ++
  " */\n\n"

/-- The comment that says what wrote the file. -/
def generationComment (generator : String) : String :=
  "/* This file is automatically generated by \x7b@link " ++ generator ++ "\x7d.\n" ++
  " * Please don't modify it directly.\n" ++
  " */\n\n"

/-- The import lines and the blank line after them; nothing if there are no imports. -/
def importBlock (names : List String) : String :=
  if names.isEmpty then ""
  else String.join (names.map fun name => "import " ++ name ++ ";\n") ++ "\n"

/-- The text of a file from its parts. -/
def frame (header : Header) (imports : List String) (body : String) : String :=
  notice header.copyrightYear ++ generationComment header.generatorName ++
    "package " ++ header.package ++ ";\n\n" ++ importBlock imports ++
    "public class " ++ header.className ++ " \x7b\n" ++ body ++ "\x7d\n"

/-- Takes imports and body, in this order, and frames them. -/
def compose (header : Header) : Drafting String := do
  let imports ← takeImports
  let body ← takeBody
  return frame header imports body

end NumberingPlan.Source
