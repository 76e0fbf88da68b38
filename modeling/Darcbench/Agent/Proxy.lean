import Darcbench.Inventory.Types
import Darcbench.Support.Files

/-!
# The reverse proxy

An operator may ask for a snippet of configuration that puts the dashboard
behind a web server.  One file is written, outside the state directory, and a
receipt in the state directory says which file it is and what it displaced.
-/

namespace Darcbench

/-! ## Layouts -/

inductive Server
  | nginx
  | apache
  deriving DecidableEq

/-- The letters of ASCII in lower case. -/
def toAsciiLowercase (s : String) : String :=
  String.ofList (s.toList.map Char.toLower)

def Server.fromStr (s : String) : Except String Server :=
  let other := toAsciiLowercase s
  if other = "nginx" then .ok .nginx
  else if other = "apache" ∨ other = "apache2" ∨ other = "httpd" then
    .ok .apache
  else
    .error ("`" ++ other ++ "` is not a supported reverse proxy. DARCBench " ++
      "generates configuration for `nginx` and `apache` only - not because " ++
      "others are worse, but because a generator for a server nobody tested " ++
      "is a config file with an authoritative tone and no evidence behind " ++
      "it.")

def Server.debug : Server → String
  | .nginx => "Nginx"
  | .apache => "Apache"

/-- One way a distribution lays out the configuration of a web server. -/
structure Layout where
  server : Server
  file : String
  marker : String
  configRoot : String
  deriving DecidableEq

def Layout.nginx : Layout where
  server := .nginx
  file := "/etc/nginx/darcbench-location.conf"
  marker := "/etc/nginx/nginx.conf"
  configRoot := "/etc/nginx"

/-- Debian and Ubuntu. -/
def Layout.apache2 : Layout where
  server := .apache
  file := "/etc/apache2/darcbench-location.conf"
  marker := "/etc/apache2/apache2.conf"
  configRoot := "/etc/apache2"

/-- RHEL, Fedora, Alma, Rocky. -/
def Layout.httpd : Layout where
  server := .apache
  file := "/etc/httpd/darcbench-location.conf"
  marker := "/etc/httpd/conf/httpd.conf"
  configRoot := "/etc/httpd"

def layouts : List Layout :=
  [.nginx, .apache2, .httpd]

def backupSuffix : String :=
  ".darcbench-backup"

def Layout.backup (layout : Layout) : String :=
  layout.file ++ backupSuffix

/-! ## What is written -/

/-- What an apply did, so that a rollback can undo exactly that. -/
structure Receipt where
  server : String
  file : String
  backup : Option String
  port : UInt16
  location : String
  writtenAt : String

def agentVersion : String :=
  "0.2.0"

/-- Checks the URL prefix, the one piece of input that reaches the snippet. -/
def validateLocation (location : String) : Except String String :=
  let chars := location.toList
  if chars.head? ≠ some '/' then
    .error "the URL prefix must start with `/`"
  else if 128 < location.utf8ByteSize then
    .error "the URL prefix must be at most 128 characters"
  else if !chars.all fun c =>
      c.isAlphanum || ['/', '-', '_', '.', '~'].contains c then
    .error ("the URL prefix may contain only letters, digits and " ++
      "`/ - _ . ~`. Anything else could close the configuration block it is " ++
      "written into and turn a prefix into a directive.")
  else if ['.', '.'] <:+: chars then
    .error "the URL prefix may not contain `..`"
  else if chars.getLast? = some '/' then .ok location
  else .ok (location ++ "/")

def generate (layout : Layout) (port : UInt16) (location : String) : String :=
  let agent := "http://127.0.0.1:" ++ toString port.toNat ++ location
  match layout.server with
  | .nginx =>
      "# Generated by DARCBench " ++ agentVersion ++
        ". Safe to delete: removing this file and\n" ++
      "# reloading nginx returns the server to exactly its previous " ++
        "behaviour.\n" ++
      "#\n" ++
      "# Written by `darcbench proxy apply`; undo with `darcbench proxy " ++
        "rollback`.\n" ++
      "#\n" ++
      "# This file is inert on its own. It does nothing until an `include` " ++
        "for it\n" ++
      "# appears inside a server block. DARCBench did not add that line and " ++
        "cannot\n" ++
      "# remove it: editing your configuration is yours to do and to undo.\n" ++
      "\n" ++
      "location " ++ location ++ " \x7b\n" ++
      "    proxy_pass " ++ agent ++ ";\n" ++
      "    proxy_http_version 1.1;\n" ++
      "\n" ++
      "    proxy_set_header Host              $host;\n" ++
      "    proxy_set_header X-Real-IP         $remote_addr;\n" ++
      "    proxy_set_header X-Forwarded-For   $proxy_add_x_forwarded_for;\n" ++
      "    # The agent always speaks plain HTTP, so it cannot tell whether " ++
        "the\n" ++
      "    # browser reached it over TLS - and it marks the session cookie " ++
        "`Secure`\n" ++
      "    # only when it did. From $scheme, so it is correct on both.\n" ++
      "    proxy_set_header X-Forwarded-Proto $scheme;\n" ++
      "\n" ++
      "    # The dashboard's live progress is a Server-Sent Events stream. A\n" ++
      "    # buffering proxy holds it until the buffer fills, so a running\n" ++
      "    # benchmark appears frozen and then jumps.\n" ++
      "    proxy_buffering off;\n" ++
      "    proxy_cache off;\n" ++
      "    proxy_read_timeout 3600s;\n" ++
      "    chunked_transfer_encoding off;\n" ++
      "\x7d\n"
  | .apache =>
      "# Generated by DARCBench " ++ agentVersion ++
        ". Safe to delete: removing this file and\n" ++
      "# reloading Apache returns the server to exactly its previous " ++
        "behaviour.\n" ++
      "#\n" ++
      "# Written by `darcbench proxy apply`; undo with `darcbench proxy " ++
        "rollback`.\n" ++
      "#\n" ++
      "# This file is inert on its own. It does nothing until an `Include` " ++
        "for it\n" ++
      "# appears inside a <VirtualHost>. DARCBench did not add that line " ++
        "and cannot\n" ++
      "# remove it: editing your configuration is yours to do and to undo.\n" ++
      "#\n" ++
      "# Needs mod_proxy and mod_proxy_http:\n" ++
      "#   a2enmod proxy proxy_http     (Debian/Ubuntu)\n" ++
      "\n" ++
      "<Location " ++ location ++ ">\n" ++
      "    ProxyPass        " ++ agent ++ " flushpackets=on timeout=3600\n" ++
      "    ProxyPassReverse " ++ agent ++ "\n" ++
      "\n" ++
      "    # See the nginx equivalent for why this header is derived rather\n" ++
      "    # than hardcoded: the agent speaks plain HTTP and marks its " ++
        "session\n" ++
      "    # cookie `Secure` only when the browser used TLS.\n" ++
      "    RequestHeader set X-Forwarded-Proto \"https\" env=HTTPS\n" ++
      "    SetEnvIf X-Forwarded-Proto \"^$\" no_proto\n" ++
      "</Location>\n"

/-! ## The machine -/

/-- What the receipt file holds. -/
inductive ReceiptFile
  | receipt (receipt : Receipt)
  | unreadable (error : String)

structure StateDir where
  receipt : Option ReceiptFile

/-- The files outside the state directory, and the state directory if it
exists. -/
structure Machine where
  files : Files
  root : String
  stateDir : Option StateDir

def Machine.receiptFile (m : Machine) : Option ReceiptFile :=
  m.stateDir.bind StateDir.receipt

def Machine.receiptPath (m : Machine) : String :=
  m.root ++ "/proxy.json"

/-- What the validator of a web server says about a snippet. -/
inductive Validation
  | passed (validator output : String)
  | failed (validator output : String)
  | unavailable (reason : String)

/-- A file that could not be written in full.  Some of it may be there. -/
structure WriteError where
  message : String
  left : Option String

/-- What an apply finds on the machine beside its files. -/
structure Host where
  panels : List DetectedSoftware
  isDir : String → Bool
  now : String
  /-- What the isolated check of nginx says. -/
  nginxCheck : Validation
  configError : Option WriteError
  receiptError : Option String

/-- Everything that must be true before a byte is written. -/
def preflight (files : Files) (host : Host) (server : Server) :
    Except String Layout :=
  match host.panels with
  | panel :: _ =>
      .error (panel.name ++ " is installed on this machine (" ++
        panel.evidence ++ "), and it generates the web server's " ++
        "configuration itself. A file dropped beside that is at best " ++
        "ignored and at worst breaks the next regeneration - hours later, " ++
        "as vhosts that stopped working. There is no --force for this: use " ++
        panel.name ++ "'s own reverse-proxy feature, which is the right " ++
        "tool and knows how to survive a regeneration.")
  | [] =>
      match layouts.find? fun layout =>
          layout.server = server && (files layout.marker).isSome with
      | none =>
          let lookedFor :=
            (layouts.filter fun layout => layout.server = server).map
              Layout.marker
          .error ("no " ++ server.debug ++ " installation found. Looked for " ++
            ", ".intercalate lookedFor ++ ". DARCBench will not create a " ++
            "configuration directory that does not exist: on a machine " ++
            "without that server, a file there is a file nothing reads and " ++
            "nobody expects.")
      | some layout =>
          if host.isDir layout.configRoot then .ok layout
          else
            .error (layout.marker ++ " exists but " ++ layout.configRoot ++
              " is not a directory.")

/-- The isolated check.  Apache is not asked about a fragment. -/
def validateSnippet (host : Host) (layout : Layout) : Validation :=
  if layout.server ≠ .nginx then
    .unavailable ("Apache cannot be asked to check a fragment on its own " ++
      "without guessing at this distribution's module paths, and a wrapper " ++
      "built from guesses would report a good file as broken.")
  else host.nginxCheck

/-- Puts a displaced file back. -/
def restore (files : Files) (target : String) (backup : Option String) :
    Files :=
  match backup with
  | some backup => files.rename backup target
  | none => files

/-- Removes what was made and puts back what was moved. -/
def undoFiles (files : Files) (target : String) (backup : Option String) :
    Files :=
  restore (files.removeFile target) target backup

/-! ## The commands -/

/-- A proxy apply, as the operator types it, with what it finds. -/
structure ApplyArgs where
  server : String
  port : UInt16
  location : String
  confirm : Bool
  host : Host

/-- What is checked before anything else: the server, the prefix and the
machine. -/
def ApplyArgs.checked (args : ApplyArgs) (files : Files) :
    Except String (Server × String × Layout) := do
  let server ← Server.fromStr args.server
  let location ← validateLocation args.location
  let layout ← preflight files args.host server
  return (server, location, layout)

/-- Where a file in the way of the snippet goes. -/
def Layout.displaced (layout : Layout) (files : Files) : Option String :=
  if (files layout.file).isSome then some layout.backup else none

/-- Moves a file in the way aside. -/
def Layout.moveAside (layout : Layout) (files : Files) : Files :=
  if (files layout.file).isSome then files.rename layout.file layout.backup
  else files

def ApplyArgs.receipt (args : ApplyArgs) (files : Files) (server : Server)
    (location : String) (layout : Layout) : Receipt where
  server := toAsciiLowercase server.debug
  file := layout.file
  backup := layout.displaced files
  port := args.port
  location := location
  writtenAt := args.host.now

/-- Writes the snippet and its receipt, and has the snippet checked. -/
def Machine.install (m : Machine) (args : ApplyArgs) (server : Server)
    (location : String) (layout : Layout) : Machine × Except String ℕ :=
  let receipt := args.receipt m.files server location layout
  let aside := layout.moveAside m.files
  match args.host.configError with
  | some error =>
      let partly := error.left.elim aside (aside.write layout.file)
      ({ m with files := restore partly layout.file receipt.backup },
        .error error.message)
  | none =>
      let written :=
        aside.write layout.file (generate layout args.port location)
      let undone := undoFiles written layout.file receipt.backup
      match args.host.receiptError with
      | some _ =>
          ({ m with files := undone },
            .error ("the configuration was written and then removed, " ++
              "because the receipt that makes `darcbench proxy rollback` " ++
              "possible could not be saved. A change this program cannot " ++
              "record is a change it cannot undo, and it will not leave " ++
              "one behind"))
      | none =>
          match validateSnippet args.host layout with
          | .failed _ _ =>
              ({ m with files := undone, stateDir := some ⟨none⟩ }, .ok 2)
          | _ =>
              ({ m with
                  files := written
                  stateDir := some ⟨some (.receipt receipt)⟩ }, .ok 0)

/-- Writes the file, has it validated, and stops. -/
def Machine.apply (m : Machine) (args : ApplyArgs) :
    Machine × Except String ℕ :=
  match args.checked m.files with
  | .error error => (m, .error error)
  | .ok (server, location, layout) =>
      if !args.confirm then (m, .ok 2)
      else if m.receiptFile.isSome then (m, .ok 2)
      else if (m.files layout.file).isSome ∧
          (m.files layout.backup).isSome then
        (m, .error (layout.backup ++ " already exists. Move it somewhere " ++
          "safe first: overwriting it would destroy the only copy of " ++
          "whatever was displaced last time."))
      else m.install args server location layout

/-- Removes what an apply created and restores what it displaced.  A line that
still names the snippet is found by a search of the configuration. -/
def Machine.rollback (m : Machine) (confirm force : Bool)
    (reference : Option String) : Machine × Except String ℕ :=
  match m.receiptFile with
  | none => (m, .ok 2)
  | some (.unreadable _) => (m, .error (m.receiptPath ++ " is unreadable"))
  | some (.receipt receipt) =>
      if !confirm then (m, .ok 2)
      else if !force && reference.isSome then (m, .ok 2)
      else
        ({ m with
            files := undoFiles m.files receipt.file receipt.backup
            stateDir := some ⟨none⟩ }, .ok 0)

def Machine.uninstall (m : Machine) (confirm : Bool) :
    Machine × Except String ℕ :=
  if confirm then ({ m with stateDir := none }, .ok 0)
  else (m, .ok 0)

inductive Command
  | apply (args : ApplyArgs)
  | rollback (confirm force : Bool) (reference : Option String)
  | uninstall (confirm : Bool)

def Machine.step (m : Machine) : Command → Machine
  | .apply args => (m.apply args).1
  | .rollback confirm force reference => (m.rollback confirm force reference).1
  | .uninstall confirm => (m.uninstall confirm).1

/-- The machine after a sequence of commands. -/
def Machine.run (m : Machine) (commands : List Command) : Machine :=
  commands.foldl Machine.step m

theorem Machine.run_concat (m : Machine) (commands : List Command)
    (command : Command) :
    m.run (commands ++ [command]) = (m.run commands).step command :=
  List.foldl_concat Machine.step m command commands

end Darcbench
