import Playground.Language

/-! The program shown when a language is first chosen. -/
namespace Playground.Language

def unlines (lines : List String) : String := lines.foldr (fun line rest => line ++ "\n" ++ rest) ""

def starter : Language → String
  | .javaScript => unlines [
      "// Welcome to the workbench",
      "function helloWorld() \x7b",
      "    console.log(\"Hello, World!\");",
      "    return \"Welcome to coding!\";",
      "\x7d",
      "",
      "helloWorld();"]
  | .python => unlines [
      "# Welcome to the workbench",
      "def hello_world():",
      "    print(\"Hello, World!\")",
      "    return \"Welcome to coding!\"",
      "",
      "hello_world()"]
  | .java => unlines [
      "// Welcome to the workbench",
      "public class HelloWorld \x7b",
      "    public static void main(String[] args) \x7b",
      "        System.out.println(\"Hello, World!\");",
      "    \x7d",
      "\x7d"]
  | .cpp => unlines [
      "// Welcome to the workbench",
      "#include <iostream>",
      "using namespace std;",
      "",
      "int main() \x7b",
      "    cout << \"Hello, World!\" << endl;",
      "    return 0;",
      "\x7d"]
  | .html => unlines [
      "<!DOCTYPE html>",
      "<html lang=\"en\">",
      "<head>",
      "    <meta charset=\"UTF-8\">",
      "    <title>Hello World</title>",
      "</head>",
      "<body>",
      "    <h1>Hello, World!</h1>",
      "    <p>Welcome to the workbench.</p>",
      "</body>",
      "</html>"]
  | .css => unlines [
      "/* Welcome to the workbench */",
      "body \x7b",
      "    font-family: Arial, sans-serif;",
      "    margin: 0;",
      "    padding: 20px;",
      "\x7d",
      "",
      "h1 \x7b",
      "    color: #333;",
      "    text-align: center;",
      "\x7d"]
  | .json => unlines [
      "\x7b",
      "  \"message\": \"Hello, World!\",",
      "  \"language\": \"JSON\",",
      "  \"features\": [\"validation\", \"pretty printing\"]",
      "\x7d"]
  | .sql => unlines [
      "-- Welcome to the workbench",
      "CREATE TABLE users (",
      "    id INTEGER PRIMARY KEY,",
      "    name VARCHAR(100),",
      "    email VARCHAR(100)",
      ");",
      "",
      "SELECT * FROM users WHERE id = 1;"]

end Playground.Language
