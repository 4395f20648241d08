import CertRenewal.Text.Split

/-!
# Help texts

What the program says about itself and its commands when it is asked for help.
-/

namespace CertRenewal.CommandLine.Help

/-- Lines as a text. -/
def text (lines : List String) : String := Text.joinStrings "\n" lines ++ "\n"

def program : String := text
  ["Usage: renewctl [--kubeconfig <kubeconfig>] [--context <context>] <command> [<args>]",
    "",
    "Renew and inspect the certificates of a cluster's control plane.",
    "",
    "Options:",
    "  --kubeconfig      path to the kubeconfig file; defaults to the usual",
    "                    kubeconfig resolution",
    "  --context         kubeconfig context to use instead of the current one",
    "  --help, help      display usage information",
    "",
    "Commands:",
    "  renew-certs       Renew control-plane certificates, node by node or by",
    "                    replacing control-plane machines.",
    "  check-expiration  Report certificates that expire within a number of days.",
    "  reset-sa-token    Rotate Service Account tokens and restart the pods that",
    "                    mount them."]

def renewCerts : String := text
  ["Usage: renewctl renew-certs [--expiration-threshold <expiration-threshold>] " ++
      "[--renew-in-place <renew-in-place>] [--image <image>]",
    "",
    "Renew control-plane certificates, node by node or by replacing control-plane machines.",
    "",
    "Options:",
    "  --expiration-threshold",
    "                    renew certificates expiring within this duration, such as",
    "                    \"24h\" (default: 24h)",
    "  --renew-in-place  true to renew on each node in place, false to roll out new",
    "                    control-plane machines (default: true)",
    "  --image           image of the in-place maintenance pod",
    "  --help, help      display usage information"]

def checkExpiration : String := text
  ["Usage: renewctl check-expiration [--duration <duration>] [--output <output>]",
    "",
    "Report certificates that expire within a number of days.",
    "",
    "Options:",
    "  --duration        report certificates expiring within this many days (default:",
    "                    30)",
    "  --output          output format: table, yaml or json (default: table)",
    "  --help, help      display usage information"]

def resetToken : String := text
  ["Usage: renewctl reset-sa-token --namespace <namespace> [--secret-name <secret-name>]",
    "",
    "Rotate Service Account tokens and restart the pods that mount them.",
    "",
    "Options:",
    "  --namespace       namespace of the Service Account token",
    "  --secret-name     name of the Secret holding the token; every token in the",
    "                    namespace when omitted",
    "  --help, help      display usage information"]

end CertRenewal.CommandLine.Help
