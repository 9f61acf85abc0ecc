import Triage.Json.Basic

/-!
# The standard policies

The policies that the library comes with: alerts about disks and processors, and requests for memory
and for replicas.
-/

namespace Triage.Standard

/-- Alerts about the space on a disk. -/
def diskUtilization : Json := .object [
  ("alert_type", .string "disk_utilization_low"),
  ("name", .string "Disk utilization"),
  ("description", .string <|
    "Cloud Monitoring disk utilization alert for a VM instance (disk space, not memory)."),
  ("patterns", .array [
    .object [
      ("type", .string "regex"),
      ("pattern", .string <|
        "Disk utilization for (\\S+) (\\S+) threshold of ([\\d.,]+) with a value of " ++
        "([\\d.,]+)"),
      ("capture_groups", .object [
        ("project_id", .int 1),
        ("instance_name", .int 2),
        ("threshold_percent", .int 3),
        ("value_percent", .int 4)])]]),
  ("extraction_defaults", .object [
    ("alert_type", .string "disk_utilization_low"),
    ("project_id", .null),
    ("instance_name", .null),
    ("metric_labels", .object []),
    ("confidence", .float (.ofDecimal false 95 (-2))),
    ("missing_fields", .array [])]),
  ("decision_rules", .array [
    .object [
      ("condition", .object [("instance_name", .null)]),
      ("decision", .string "NO_ACTION")],
    .object [
      ("condition", .object [("instance_name", .object [("starts_with", .string "tmp-")])]),
      ("decision", .string "AUTO_REPLACE")]]),
  ("default_decision", .string "NEEDS_APPROVAL"),
  ("action_templates", .array [
    .object [
      ("label", .string "Inspect"),
      ("description", .string "Describe the instance and its attached disks"),
      ("template", .string "MCP:gcloud_command"),
      ("parameters", .object [
        ("command", .string <|
          "gcloud compute instances describe \x7binstance_name\x7d " ++
          "--project=\x7bproject_id\x7d --format=json(disks)")])],
    .object [
      ("label", .string "Replace"),
      ("description", .string "Recreate the instance from its managed instance group"),
      ("template", .string <|
        "gcloud compute instance-groups managed recreate-instances " ++
        "--instances=\x7binstance_name\x7d --project=\x7bproject_id\x7d")]]),
  ("summary_template", .string <|
    "Disk utilization on \x7binstance_name\x7d (\x7bproject_id\x7d) is " ++
    "\x7bvalue_percent\x7d% against a threshold of " ++
    "\x7bthreshold_percent\x7d%.\n\x7baction_options\x7d"),
  ("sample_texts", .array [
    .string <|
      "Disk utilization for project-123 instance-456 threshold of 80.0 with a value of 65.5"]),
  ("prompt_hints", .array [
    .string "Only use disk_utilization_low when the text is about disk or storage space."])]

/-- Requests for more memory. -/
def memoryUpgrade : Json := .object [
  ("alert_type", .string "add_memory_to_vm"),
  ("name", .string "VM memory upgrade"),
  ("description", .string <|
    "Request to give a VM-backed service more memory (RAM) by changing its machine type."),
  ("guard", .object [
    ("require_any", .array [.string "memory", .string "ram"]),
    ("exclude_any", .array [.string "disk"])]),
  ("patterns", .array [
    .object [
      ("type", .string "regex"),
      ("pattern", .string <|
        "(?:add|increase|more)\\s+(?:memory|ram)\\b.*?\\b(?:for|on|to)\\s+(?P<servi" ++
        "ce_name>[a-z0-9][a-z0-9-]*)(?:\\s+in\\s+(?P<environment>[a-z0-9-]+))?(?:" ++
        ".*?\\bfrom\\s+(?P<current_machine_type>[a-z0-9-]+)\\s+to\\s+(?P<target_mac" ++
        "hine_type>[a-z0-9-]+))?")]]),
  ("extraction_defaults", .object [
    ("alert_type", .string "add_memory_to_vm"),
    ("project_id", .null),
    ("instance_name", .null),
    ("environment", .string "production"),
    ("metric_labels", .object []),
    ("confidence", .float (.ofDecimal false 85 (-2))),
    ("missing_fields", .array [])]),
  ("critical_fields", .array [
    .string "service_name",
    .string "current_machine_type",
    .string "target_machine_type"]),
  ("default_decision", .string "NEEDS_APPROVAL"),
  ("action_templates", .array [
    .object [
      ("label", .string "Change machine type"),
      ("description", .string "Pull request switching the instance template machine type"),
      ("template", .string "MCP:machine_type_diff")]]),
  ("summary_template", .string <|
    "Memory upgrade for \x7bservice_name\x7d in \x7benvironment\x7d: " ++
    "\x7bcurrent_machine_type\x7d -> \x7btarget_machine_type\x7d.\n\x7baction_options\x7d"),
  ("sample_texts", .array [
    .string <|
      "Please add memory to billing-api in staging, move it from e2-standard-2 to " ++
      "e2-standard-4"]),
  ("prompt_hints", .array [
    .string <|
      "Use add_memory_to_vm only when the user asks for memory or RAM; disk space requests " ++
      "are not memory requests.",
    .string <|
      "current_machine_type and target_machine_type are GCE machine types such as " ++
      "e2-standard-4."])]

/-- Requests for more replicas of a service. -/
def scaleUp : Json := .object [
  ("alert_type", .string "scale_up_service"),
  ("name", .string "Scheduled scale up"),
  ("description", .string <|
    "Request to scale a service up to a minimum number of replicas, optionally on a " ++
    "schedule."),
  ("patterns", .array [
    .object [
      ("type", .string "regex"),
      ("pattern", .string <|
        "scale\\s+up\\s+(?P<service_name>[a-z0-9][a-z0-9-]*)\\s+to\\s+(?P<min_repli" ++
        "cas>\\d+)\\s+replicas(?:\\s+at\\s+\"(?P<schedule_expression>[^\"]+)\")?(?:\\s+" ++
        "for\\s+(?P<duration_sec>\\d+)\\s*s(?:ec(?:onds)?)?)?")]]),
  ("extraction_defaults", .object [
    ("alert_type", .string "scale_up_service"),
    ("project_id", .null),
    ("instance_name", .null),
    ("environment", .string "production"),
    ("user_intent", .string "scale_up"),
    ("metric_labels", .object []),
    ("confidence", .float (.ofDecimal false 9 (-1))),
    ("missing_fields", .array [])]),
  ("critical_fields", .array [.string "service_name", .string "min_replicas"]),
  ("decision_rules", .array [
    .object [
      ("condition", .object [("environment", .string "production")]),
      ("decision", .string "NEEDS_APPROVAL")],
    .object [
      ("condition", .object [("environment", .object [("matches", .string "^(dev|sandbox)")])]),
      ("decision", .string "AUTO_REPLACE")]]),
  ("default_decision", .string "NEEDS_APPROVAL"),
  ("action_templates", .array [
    .object [
      ("label", .string "Autoscaler schedule"),
      ("description", .string "Pull request adding a scheduled autoscaler block"),
      ("template", .string "MCP:terragrunt_autoscaler_diff"),
      ("parameters", .object [
        ("schedule_name", .string "\x7bservice_name\x7d-scale-up"),
        ("time_zone", .string "America/Sao_Paulo")])],
    .object [
      ("label", .string "Immediate scale up"),
      ("description", .string "Raise the minimum instance count right away"),
      ("template", .string "MCP:gcloud_scale_up"),
      ("parameters", .object [
        ("gcloud_command", .string <|
          "gcloud compute instance-groups managed set-autoscaling \x7bservice_name\x7d " ++
          "--min-num-replicas=\x7bmin_replicas\x7d")])]]),
  ("summary_template", .string <|
    "Scale up \x7bservice_name\x7d to \x7bmin_replicas\x7d replicas.\n\x7baction_options\x7d"),
  ("sample_texts", .array [
    .string "scale up checkout-web to 6 replicas at \"0 8 * * 1-5\" for 3600 seconds"])]

/-- Alerts about a busy processor, which only a model recognises. -/
def cpuUtilization : Json := .object [
  ("alert_type", .string "cpu_utilization_high"),
  ("name", .string "CPU utilization"),
  ("description", .string <|
    "CPU utilization above threshold on an instance. Interpreted by the model only."),
  ("extraction_defaults", .object [
    ("alert_type", .string "cpu_utilization_high"),
    ("project_id", .null),
    ("instance_name", .null),
    ("metric_labels", .object []),
    ("confidence", .float (.ofDecimal false 8 (-1))),
    ("missing_fields", .array [])]),
  ("default_decision", .string "NEEDS_APPROVAL"),
  ("summary_template", .string <|
    "CPU utilization on \x7binstance_name\x7d (\x7bproject_id\x7d) is " ++
    "\x7bvalue_percent\x7d%. Review the workload before acting."),
  ("sample_texts", .array [
    .string "CPU utilization for project-123 web-1 is above 90% for 15 minutes"])]

/-- The document of the standard policies. -/
def document : Json := .object [
  ("policies", .array [diskUtilization, memoryUpgrade, scaleUp, cpuUtilization])]

end Triage.Standard
