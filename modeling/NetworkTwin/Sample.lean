import NetworkTwin.Scenario.Basic

/-!
Sample topologies and scenarios, for trying things out and as a start for topologies of one's own.
-/

namespace NetworkTwin.Sample

def routerAndServer : Graph :=
  Graph.empty
    |>.addNode (.plain "router" .router "Router")
    |>.addNode (.plain "server" .server "Server")
    |>.addLink ((Link.plain "l1" "router" "server").withLatency 1.0)

def guardedWeb (policy : String) : Graph :=
  Graph.empty
    |>.addNode ((Node.plain "users" .workstation "Users").withTag "staff")
    |>.addNode ((Node.plain "fw1" .firewall "Edge FW").withProperty "policy" (.text policy))
    |>.addNode (.plain "webapp" .server "Web App")
    |>.addLink ((Link.plain "l1" "users" "fw1").withLatency 1.0)
    |>.addLink ((Link.plain "l2" "fw1" "webapp").withLatency 2.0)

/-- Routers in a row. Each is labelled with its id in upper case. -/
def chain (ids : List String) : Graph :=
  { nodes := ids.map fun id => .plain id .router (Text.toUpper id)
    links := (ids.zip (ids.drop 1)).mapIdx fun place pair =>
      (Link.plain ("l" ++ toString (place + 1)) pair.1 pair.2).withLatency 1.0
    metadata := none }

def officePolicy : String :=
  "# Office perimeter\n" ++
    "allow tcp from Any to web1 port 443\n" ++
    "allow tcp from staff to db1 port 5432\n" ++
    "deny any from guest to Any\n" ++
    "deny any from Any to Any\n"

/-- A small office: a firewall at its edge, a public web server, a database, staff and
administration, and a kiosk for guests. -/
def office : Graph :=
  Graph.empty
    |>.addNode ((Node.plain "isp" .router "ISP Router").withTag "internet")
    |>.addNode ((Node.plain "fw1" .firewall "Perimeter Firewall")
      |>.withTag "security"
      |>.withCriticality .high
      |>.withProperty "policy" (.text officePolicy))
    |>.addNode (.plain "core" .switch "Core Switch")
    |>.addNode (((Node.plain "web1" .server "Web Server").withTag "public").withCriticality .high)
    |>.addNode ((Node.plain "db1" .server "Database")
      |>.withTag "internal"
      |>.withCriticality .critical)
    |>.addNode ((Node.plain "ws1" .workstation "Staff Laptop").withTag "staff")
    |>.addNode (((Node.plain "adm1" .workstation "Admin Console").withRole "admin").withTag "staff")
    |>.addNode ((Node.plain "kiosk" .workstation "Lobby Kiosk").withTag "guest")
    |>.addLink (((Link.plain "l-isp" "isp" "fw1").withKind .wan).withLatency 12.0)
    |>.addLink ((Link.plain "l-core" "fw1" "core").withLatency 1.0)
    |>.addLink ((Link.plain "l-web" "core" "web1").withLatency 1.0)
    |>.addLink ((Link.plain "l-db" "core" "db1").withLatency 1.0)
    |>.addLink ((Link.plain "l-ws" "core" "ws1").withLatency 2.0)
    |>.addLink ((Link.plain "l-adm" "core" "adm1").withLatency 2.0)
    |>.addLink (((Link.plain "l-kiosk" "kiosk" "adm1").withKind .wifi).withLatency 5.0)

/-- A day at the office: flows that pass and flows that do not, a link that fails, and two
attacks. -/
def officeDay : Scenario :=
  Scenario.plain "office-baseline" "Office baseline" "office"
    |>.addFlow ((Flow.plain "https-in" "isp" "web1" "tcp").withPort 443)
    |>.addFlow ((Flow.plain "db-from-internet" "isp" "db1" "tcp").withPort 5432)
    |>.addFlow ((Flow.plain "staff-db" "ws1" "db1" "tcp").withPort 5432)
    |>.addFlow ((Flow.plain "kiosk-web" "kiosk" "web1" "tcp").withPort 80)
    |>.addFault (.plain "wifi-outage" .linkDown "l-kiosk")
    |>.addAttack ((AttackEvent.plain "recon" .reconScan "isp").withTarget "db1")
    |>.addAttack ((AttackEvent.plain "pivot" .lateralMovement "ws1").withTarget "adm1")

end NetworkTwin.Sample
